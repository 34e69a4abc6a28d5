import LivePreview.Toml.Scanner

/-!
# Reading a settings document

1. A value is a string, a number, a date, a boolean, an array or a table in braces.
2. A name with dots goes through tables, which it makes where there are none; `Table.insertAt`
   says which tables a name may go through and what it may not name again.
3. A document is read line by line. A header ends the table before it, which goes to its place in
   the tree only then, and starts the next one.
-/

namespace LivePreview.Toml

open Text (Cursor)

/-! ## Names through tables -/

/-- The names of a path up to and with one of its parts. -/
def pathTo (path : List Key) (part : Key) : List String :=
  ((path.takeWhile (· != part)) ++ [part]).map Key.text

namespace Table

/-- Changes the table at the end of a path. Tables that are missing on the way are made; a dotted
path goes through no table that has been defined otherwise. `whole` is the whole path. -/
def modifyAt (isInline isDotted : Bool) (whole : List Key) (f : Table → Except Cause Table) :
    List Key → Table → Except Cause Table
  | [], t => f t
  | k :: ks, t =>
    match t.find? k.text with
    | none => do
      let child ← modifyAt isInline isDotted whole f ks (empty ⟨isInline, true, isDotted⟩)
      return t.put (.mk k none (.table child))
    | some (.mk key extent (.table child)) =>
      if child.shape.isInline != isInline then
        .error (.extendsValue (pathTo whole k) "inline table")
      else if isDotted && !child.shape.isImplicit then .error (.duplicateKey k.text none)
      else do return t.put (.mk key extent (.table (← modifyAt isInline isDotted whole f ks child)))
    | some (.mk key extent (.tables ts)) =>
      match ts.reverse with
      | last :: before => do
        let child ← modifyAt isInline isDotted whole f ks last
        return t.put (.mk key extent (.tables (before.reverse ++ [child])))
      | [] => .error (.duplicateKey k.text none)
    | some e => .error (.extendsValue (pathTo whole k) e.node.kindName)

/-- The table at the end of a path; of tables in double brackets the last one counts. -/
def at? (path : List Key) (t : Table) : Option Table :=
  path.foldlM (fun t k =>
    match (t.find? k.text).map Entry.node with
    | some (.table child) => some child
    | some (.tables ts) => ts.getLast?
    | _ => none) t

/-- Puts a value under a name; `path` is the table's name where messages tell it. -/
def define (path : Option (List String)) (isDotted : Bool) (e : Entry) (t : Table) :
    Except Cause Table :=
  if isDotted && !t.shape.isDotted then .error (.duplicateKey e.key.text none)
  else if (t.find? e.key.text).isSome then .error (.duplicateKey e.key.text path)
  else .ok (t.put e)

/-- Puts a value under a name that may have dots. -/
def insertAt (isInline : Bool) (path : Option (List String)) (keys : List Key)
    (extent : Extent) (node : Node) (t : Table) : Except Cause Table :=
  match keys.reverse with
  | [] => .ok t
  | last :: before =>
    let isDotted := !before.isEmpty
    modifyAt isInline isDotted before.reverse (define path isDotted (.mk last (some extent) node))
      before.reverse t

end Table

/-! ## Values -/

/-- An item of an array, with the lines around it. -/
def item (value : Cursor → Except Refusal (Node × Cursor)) (c : Cursor) :
    Except Refusal (Node × Cursor) := do
  let (n, d) ← value (← skipLines (c.rest.length + 1) c)
  return (n, ← skipLines (d.rest.length + 1) d)

/-- The items of an array; `fuel` bounds their number. -/
def items (value : Cursor → Except Refusal (Node × Cursor)) :
    Nat → List Node → Cursor → Except Refusal (List Node × Cursor)
  | 0, acc, c => .ok (acc.reverse, c)
  | fuel + 1, acc, c =>
    match item value c with
    | .error e => if e.isFinal then .error e else .ok (acc.reverse, c)
    | .ok (n, d) =>
      if d.sees ',' then items value fuel (n :: acc) (d.skip 1) else .ok ((n :: acc).reverse, d)

/-- An array, behind its bracket. -/
def arrayRest (value : Cursor → Except Refusal (Node × Cursor)) (c : Cursor) :
    Except Refusal (Node × Cursor) := do
  let (ns, d) ← items value (c.rest.length + 1) [] c
  let d ← settled (skipLines (d.rest.length + 1) d)
  if d.sees ']' then return (.array ns, d.skip 1)
  else throw ((Refusal.here d.offset).label "array" |>.expecting ["`]`"]).final

/-- A name and its value, up to the value's end. -/
def keyValue (value : Cursor → Except Refusal (Node × Cursor)) (c : Cursor) :
    Except Refusal ((List Key × Extent × Node) × Cursor) := do
  let (ks, d) ← key c
  if !d.sees '=' then throw ((Refusal.here d.offset).expecting ["`.`", "`=`"]).final
  let d := skipSpace (d.skip 1)
  match value d with
  | .ok (n, e) => return ((ks, ⟨d.offset, e.offset⟩, n), e)
  | .error e => throw e.final

/-- The names and values of a table in braces; `fuel` bounds their number. -/
def pairs (value : Cursor → Except Refusal (Node × Cursor)) :
    Nat → List (List Key × Extent × Node) → Cursor →
      Except Refusal (List (List Key × Extent × Node) × Cursor)
  | 0, acc, c => .ok (acc.reverse, c)
  | fuel + 1, acc, c =>
    match keyValue value c with
    | .error e => if e.isFinal then .error e else .ok (acc.reverse, c)
    | .ok (pair, d) =>
      let d := skipSpace d
      if !d.sees ',' then .ok ((pair :: acc).reverse, d)
      else
        match key (d.skip 1) with
        | .error e => if e.isFinal then .error e else .ok ((pair :: acc).reverse, d)
        | .ok _ => pairs value fuel (pair :: acc) (d.skip 1)

/-- A table in braces, behind its brace. -/
def inlineRest (value : Cursor → Except Refusal (Node × Cursor)) (c : Cursor) :
    Except Refusal (Node × Cursor) := do
  let (ps, d) ← pairs value (c.rest.length + 1) [] c
  let start := Table.empty ⟨true, false, false⟩
  match ps.foldlM (fun t (ks, extent, n) => t.insertAt true none ks extent n) start with
  | .error cause => throw (.because c.offset cause)
  | .ok t =>
    let d := skipSpace d
    if d.sees '\x7d' then return (.table t, d.skip 1)
    else throw ((Refusal.here d.offset).label "inline table" |>.expecting ["`\x7d`"]).final

/-- A word that stands for a value. -/
def wordValue (word : String) (node : Node) (isSettled : Bool) (c : Cursor) :
    Except Refusal (Node × Cursor) :=
  if word.toList.isPrefixOf c.rest then .ok (node, c.skip word.length)
  else
    let refusal := (Refusal.here c.offset).label "string" |>.expecting ["`\"`", "`'`"]
    .error (if isSettled then refusal.final else refusal)

/-- A value of at most so many levels. -/
def value (depth : Nat) (c : Cursor) : Except Refusal (Node × Cursor) :=
  match c.peek with
  | none => .error (Refusal.here c.offset)
  | some ch =>
    match ch with
    | '"' | '\'' =>
      match anyString c with
      | .ok (text, d) => .ok (.string text, d)
      | .error e => .error e
    | '[' =>
      match depth with
      | 0 => .error (.because c.offset .tooDeep)
      | depth + 1 => arrayRest (value depth) (c.skip 1)
    | '\x7b' =>
      match depth with
      | 0 => .error (.because c.offset .tooDeep)
      | depth + 1 => inlineRest (value depth) (c.skip 1)
    | 't' => wordValue "true" (.boolean true) true c
    | 'f' => wordValue "false" (.boolean false) true c
    | 'i' => wordValue "inf" (.float "inf") false c
    | 'n' => wordValue "nan" (.float "NaN") false c
    | '_' =>
      match integer c with
      | .ok r => .ok r
      | .error e => .error (e.expecting ["leading digit"])
    | '.' =>
      match float c with
      | .ok r => .ok r
      | .error e => .error (e.expecting ["leading digit"])
    | _ =>
      if ch == '+' || ch == '-' || Text.isDecimal ch then numeric c
      else .error ((Refusal.here c.offset).label "string" |>.expecting ["`\"`", "`'`"])

/-! ## Documents -/

/-- A document read in part: the tree so far, and the table that is being filled with its name. -/
structure Reading where
  root : Table
  current : Table
  path : List Key
  isArray : Bool
  /-- The bytes of the current table: its header and the values under it. -/
  header : Option Extent

namespace Reading

/-- Nothing read. -/
def start : Reading :=
  let table := Table.empty ⟨false, false, false⟩
  ⟨table, table, [], false, none⟩

/-- The table that is being filled goes to its place. -/
def close (r : Reading) : Except Cause Table :=
  match r.path.reverse with
  | [] => .ok r.current
  | last :: before =>
    let place (t : Table) : Except Cause Table :=
      if r.isArray then
        match t.find? last.text with
        | some (.mk key extent (.tables ts)) =>
          let extent := if ts.isEmpty then r.header else extent.bind fun first =>
            r.header.map fun last => { first with stop := last.stop }
          .ok (t.put (.mk key extent (.tables (ts ++ [r.current]))))
        | _ => .ok (t.put (.mk last r.header (.tables [r.current])))
      else .ok (t.put (.mk last r.header (.table r.current)))
    Table.modifyAt false false before.reverse place before.reverse r.root

/-- A header in single brackets starts a table, which may have been named only in passing. -/
def startTable (r : Reading) (path : List Key) (header : Extent) : Except Cause Reading := do
  let root ← r.close
  match path.reverse with
  | [] => return r
  | last :: before =>
    let whole := before.reverse
    let names := whole.map Key.text
    let mark (t : Table) : Except Cause Table :=
      match t.find? last.text with
      | none => .ok t
      | some (.mk _ _ (.table child)) =>
        if child.shape.isImplicit && !child.shape.isDotted && !child.shape.isInline then
          .ok (t.erase last.text)
        else .error (.duplicateKey last.source (some names))
      | some _ => .error (.duplicateKey last.source (some names))
    let root' ← Table.modifyAt false false whole mark whole root
    let named := ((root.at? path).map Table.entries).getD []
    return ⟨root', .mk ⟨false, false, false⟩ named, path, false, some header⟩

/-- A header in double brackets starts one more table of its name. -/
def startArray (r : Reading) (path : List Key) (header : Extent) : Except Cause Reading := do
  let root ← r.close
  match path.reverse with
  | [] => return r
  | last :: before =>
    let whole := before.reverse
    let mark (t : Table) : Except Cause Table :=
      match t.find? last.text with
      | none => .ok (t.put (.mk last (some header) (.tables [])))
      | some (.mk _ _ (.tables _)) => .ok t
      | some _ => .error (.duplicateKey last.source (some (whole.map Key.text)))
    let root ← Table.modifyAt false false whole mark whole root
    return ⟨root, .empty ⟨false, false, false⟩, path, true, some header⟩

/-- A name and its value go to the table that is being filled. -/
def define (r : Reading) (keys : List Key) (extent : Extent) (node : Node) :
    Except Cause Reading := do
  let path := r.path.map Key.text
  let current ← r.current.insertAt false (some path) keys extent node
  return { r with
    current, header := r.header.map fun h => { h with stop := extent.stop } }

end Reading

/-- A refusal for a cause, at a place. -/
def because {α : Type} (offset : Nat) : Except Cause α → Except Refusal α
  | .ok a => .ok a
  | .error cause => .error (.because offset cause)

/-- A header, at its bracket. -/
def header (r : Reading) (c : Cursor) : Except Refusal (Reading × Cursor) := do
  let isArray := c.rest[1]? == some '['
  let labelled {α : Type} (s : Except Refusal α) : Except Refusal α :=
    match s with
    | .ok a => .ok a
    | .error e => .error (e.label "table header").final
  let (ks, d) ← labelled (key (c.skip (if isArray then 2 else 1)))
  let closing := if isArray then [']', ']'] else [']']
  if !closing.isPrefixOf d.rest then
    let wanted := ["`.`", "`" ++ String.ofList closing ++ "`"]
    labelled (throw ((Refusal.here d.offset).expecting wanted))
  let d := d.skip closing.length
  let e ← labelled (lineRest d)
  let extent : Extent := ⟨c.offset, d.offset⟩
  let next ← labelled (because c.offset
    (if isArray then r.startArray ks extent else r.startTable ks extent))
  return (next, e)

/-- A line with a name and its value. -/
def assignment (r : Reading) (c : Cursor) : Except Refusal (Reading × Cursor) := do
  match keyValue (value (maxDepth - 1)) c with
  | .error e => throw e.final
  | .ok ((ks, extent, n), d) =>
    let e ← lineRest d
    return (← because c.offset (r.define ks extent n), e)

/-- The lines of a document; `fuel` bounds their number. -/
def readLines : Nat → Reading → Cursor → Except Refusal Reading
  | 0, r, _ => .ok r
  | fuel + 1, r, c => do
    let c := skipSpace c
    match c.peek with
    | none => return r
    | some ch =>
      if ch == '#' then
        let d := skipComment c
        if d.rest.isEmpty then return r
        match lineEnd? d with
        | some e => readLines fuel r e
        | none => throw (Refusal.here d.offset)
      else if ch == '[' then
        let (r, d) ← header r c
        readLines fuel r d
      else if ch == '\n' || ch == '\r' then
        match lineEnd? c with
        | some d => readLines fuel r d
        | none => throw (Refusal.here c.offset)
      else
        let (r, d) ← assignment r c
        readLines fuel r d

/-- The table that a document is. A mark of the byte order in front of it is no part of it. -/
def read (source : List Char) : Except Refusal Table := do
  let c := Cursor.start source
  let c := if c.sees '\ufeff' then c.skip 1 else c
  let r ← readLines (source.length + 1) .start c
  because c.offset r.close

end LivePreview.Toml
