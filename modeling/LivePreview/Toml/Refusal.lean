import LivePreview.Text.Blank
import LivePreview.Text.Bytes
import LivePreview.Text.Numeral

/-!
# Why a settings document is refused

A refusal has a place and a message of up to three lines: what is invalid, what was expected, what
went wrong. It is shown below the line of the document where it happened.
-/

namespace LivePreview.Toml

/-- What is wrong with the names or numbers of a document that is well formed. -/
inductive Cause where
  /-- A name given twice; `path` is the table's name where that is told. -/
  | duplicateKey (key : String) (path : Option (List String))
  /-- A dotted name that goes on behind what is no table. -/
  | extendsValue (path : List String) (kind : String)
  | outOfRange
  | tooLarge
  | tooSmall
  | tooDeep
deriving DecidableEq, Repr

/-- The message of a cause. -/
def Cause.message : Cause → String
  | duplicateKey key none => "duplicate key `" ++ key ++ "`"
  | duplicateKey key (some []) => "duplicate key `" ++ key ++ "` in document root"
  | duplicateKey key (some path) =>
    "duplicate key `" ++ key ++ "` in table `" ++ ".".intercalate path ++ "`"
  | extendsValue path kind =>
    "dotted key `" ++ ".".intercalate path ++ "` attempted to extend non-table type (" ++
      kind ++ ")"
  | outOfRange => "value is out of range"
  | tooLarge => "number too large to fit in target type"
  | tooSmall => "number too small to fit in target type"
  | tooDeep => "recursion limit exceeded"

/-- A document that cannot be read on. -/
structure Refusal where
  /-- The byte where reading stopped. -/
  offset : Nat
  /-- What is being read, innermost first. -/
  labels : List String
  expected : List String
  cause : Option Cause
  /-- Nothing else can be meant at this place. -/
  isFinal : Bool
deriving DecidableEq, Repr

namespace Refusal

/-- A refusal at a place; something else may be meant there. -/
def here (offset : Nat) : Refusal := ⟨offset, [], [], none, false⟩

/-- Tells what was being read. -/
def label (r : Refusal) (name : String) : Refusal := { r with labels := r.labels ++ [name] }

/-- Tells what was expected. -/
def expecting (r : Refusal) (names : List String) : Refusal :=
  { r with expected := r.expected ++ names }

/-- Nothing else can be meant. -/
def final (r : Refusal) : Refusal := { r with isFinal := true }

/-- A refusal for a cause. -/
def because (offset : Nat) (cause : Cause) : Refusal := ⟨offset, [], [], some cause, true⟩

/-- The message of a refusal. -/
def message (r : Refusal) : String :=
  let lines :=
    (r.labels.head?.map fun name => "invalid " ++ name).toList ++
      (if r.expected.isEmpty then [] else ["expected " ++ ", ".intercalate r.expected]) ++
      (r.cause.map Cause.message).toList
  "\n".intercalate lines

end Refusal

/-! ## Showing the place -/

/-- The lines of a document, without their ends. -/
def sourceLines : List Char → List (List Char)
  | [] => [[]]
  | '\n' :: cs => [] :: sourceLines cs
  | c :: cs =>
    match sourceLines cs with
    | line :: lines => (c :: line) :: lines
    | [] => [[c]]

/-- The characters that end at byte `n` or before it. -/
def wholeBefore (n : Nat) (source : List Char) : List Char :=
  let before := Text.takeBytes n source
  if Text.byteLength before > n then before.dropLast else before

/-- The line and the column of a byte, both from 0. The column counts characters, but bytes when
the byte does not end its character; behind the last byte it counts on from there. -/
def placeOf (source : List Char) (offset : Nat) : Nat × Nat :=
  let size := Text.byteLength source
  if size == 0 then (0, offset)
  else
    let safe := min offset (size - 1)
    let before := wholeBefore safe source
    let start := (before.reverse.takeWhile (· != '\n')).reverse
    let upTo := wholeBefore (safe + 1) source
    let column :=
      if Text.byteLength upTo == safe + 1 then start.length + upTo.length - before.length - 1
      else Text.byteLength start + (safe - Text.byteLength before)
    (before.count '\n', column + (offset - safe))

/-- A message below the line of a document that it is about, with the bytes underlined. -/
def showAt (source : List Char) (start stop : Nat) (message : String) : String :=
  let (line, column) := placeOf source start
  let content := (sourceLines source).getD line []
  let number := String.ofList (Text.decimal (line + 1))
  let gutter := String.ofList (List.replicate (number.length + 1) ' ')
  let width := min (stop - start) (Text.byteLength content - column)
  let repeated (n : Nat) (c : Char) : String := String.ofList (List.replicate n c)
  "TOML parse error at line " ++ number ++ ", column " ++
    String.ofList (Text.decimal (column + 1)) ++ "\n" ++ gutter ++ "|\n" ++ number ++ " | " ++
    String.ofList content ++ "\n" ++ gutter ++ "|" ++ repeated (column + 1) ' ' ++
    repeated (max width 1) '^' ++ "\n" ++ message ++ "\n"

/-- A refusal below the line of a document that it is about, with the character underlined that its
place is in. -/
def Refusal.shown (source : List Char) (r : Refusal) : String :=
  let start := Text.byteLength (wholeBefore r.offset source)
  let size := ((Text.dropBytes start source).head?.map Char.utf8Size).getD 0
  showAt source start (start + size) r.message

end LivePreview.Toml
