import LivePreview.Text.Binary64
import LivePreview.Text.Cursor
import LivePreview.Toml.Node
import LivePreview.Toml.Refusal

/-!
# Scanning the words of a settings document

Strings, names, numbers and dates. A scanner takes a place and answers with what it read and the
place behind it, or with a refusal.
-/

namespace LivePreview.Toml

open Text (Cursor)

/-- What a scanner answers. -/
abbrev Scan (α : Type) := Except Refusal (α × Cursor)

/-- A space or a tab. -/
def isSpace (c : Char) : Bool := c == ' ' || c == '\t'

/-- The place behind spaces and tabs. -/
def skipSpace (c : Cursor) : Cursor := (c.takeWhile isSpace).2

/-- The source between two places. -/
def between (c d : Cursor) : List Char := c.rest.take (c.rest.length - d.rest.length)

/-- A character that a line may hold: no control character other than a tab. -/
def isPlain (c : Char) : Bool := c == '\t' || (' ' ≤ c && c ≠ '\x7f')

/-- The place behind a line end, if one is here. -/
def lineEnd? (c : Cursor) : Option Cursor :=
  match c.rest with
  | '\n' :: _ => some (c.skip 1)
  | '\r' :: '\n' :: _ => some (c.skip 2)
  | _ => none

/-- The place behind a comment and spaces before it, if there are any. -/
def skipComment (c : Cursor) : Cursor :=
  let c := skipSpace c
  if c.sees '#' then (c.takeWhile isPlain).2 else c

/-- The rest of a line: spaces, a comment, the line's end. -/
def lineRest (c : Cursor) : Except Refusal Cursor :=
  let c := skipComment c
  if c.rest.isEmpty then .ok c
  else
    match lineEnd? c with
    | some c => .ok c
    | none => .error ((Refusal.here c.offset).expecting ["newline", "`#`"]).final

/-- The place behind spaces, line ends and comments; a comment has to end with its line. `fuel`
bounds the number of lines. -/
def skipLines : Nat → Cursor → Except Refusal Cursor
  | 0, c => .ok c
  | fuel + 1, c =>
    let d := skipSpace c
    let e := skipComment d
    match lineEnd? e with
    | some e => skipLines fuel e
    | none =>
      if d.sees '#' || e.sees '\r' then
        .error (Refusal.here (if e.rest.isEmpty then e.offset else e.offset + 1))
      else .ok d

/-- The place behind spaces and line ends; `fuel` bounds their number. -/
def skipBlankLines : Nat → Cursor → Cursor
  | 0, c => c
  | fuel + 1, c =>
    match lineEnd? (skipSpace c) with
    | some d => skipBlankLines fuel d
    | none => skipSpace c

/-! ## Strings -/

/-- The character that an escape stands for, read behind its backslash. One that the end of the text
breaks off is refused where it begins. -/
def escape (c : Cursor) : Scan Char :=
  let code (digits : Nat) (label : String) : Scan Char :=
    let c := c.skip 1
    let ds := c.rest.take digits
    let run := ds.takeWhile fun d => (Text.digitValue? d).isSome
    let value := run.foldl (fun n d => 16 * n + (Text.digitValue? d).getD 0) 0
    if run.length < digits then .error ((Refusal.here c.offset).label label).final
    else if value.isValidChar then .ok (Char.ofNat value, c.skip digits)
    else
      let refused := (Refusal.here c.offset).label label
      .error { refused with cause := some .outOfRange, isFinal := true }
  let plain (ch : Char) : Scan Char := .ok (ch, c.skip 1)
  match c.peek with
  | some 'b' => plain '\x08'
  | some 'f' => plain '\x0c'
  | some 'n' => plain '\n'
  | some 'r' => plain '\r'
  | some 't' => plain '\t'
  | some '\\' => plain '\\'
  | some '"' => plain '"'
  | some 'u' => code 4 "unicode 4-digit hex code"
  | some 'U' => code 8 "unicode 8-digit hex code"
  | some _ =>
    .error ((Refusal.here (c.offset + 1)).label "escape sequence" |>.expecting
      ["`b`", "`f`", "`n`", "`r`", "`t`", "`u`", "`U`", "`\\`", "`\"`"]).final
  | none => .error (Refusal.here (c.offset - 1)).final

/-- The rest of a string in double quotes, read so far backwards; `fuel` bounds its length. -/
def quotedRest : Nat → List Char → Cursor → Scan String
  | 0, _, c => .error (Refusal.here c.offset).final
  | fuel + 1, acc, c =>
    match c.rest with
    | '"' :: _ => .ok (String.ofList acc.reverse, c.skip 1)
    | '\\' :: _ =>
      match escape (c.skip 1) with
      | .ok (ch, c) => quotedRest fuel (ch :: acc) c
      | .error e => .error (e.label "basic string")
    | ch :: _ =>
      if isPlain ch then quotedRest fuel (ch :: acc) (c.skip 1)
      else .error ((Refusal.here c.offset).label "basic string").final
    | [] => .error ((Refusal.here c.offset).label "basic string").final

/-- A string in single quotes. -/
def literal (c : Cursor) : Scan String :=
  let (text, behind) := (c.skip 1).takeWhile fun ch => isPlain ch && ch != '\''
  if behind.sees '\'' then .ok (String.ofList text, behind.skip 1)
  else .error ((Refusal.here behind.offset).label "literal string").final

/-- A string on one line, at its quote. -/
def string (c : Cursor) : Scan String :=
  if c.sees '"' then quotedRest (c.rest.length + 1) [] (c.skip 1) else literal c

/-- The number of quotes here, at most `most`. -/
def quotes (quote : Char) (most : Nat) (c : Cursor) : Nat :=
  ((c.rest.take most).takeWhile (· == quote)).length

/-- The rest of a string over several lines, read so far backwards; `fuel` bounds its length. Up to
two quotes may stand before the three that end it. -/
def blockRest (quote : Char) (label : String) : Nat → List Char → Cursor → Scan String
  | 0, _, c => .error ((Refusal.here c.offset).label label).final
  | fuel + 1, acc, c =>
    let n := quotes quote 5 c
    if n ≥ 3 then .ok (String.ofList (acc.reverse ++ List.replicate (n - 3) quote), c.skip n)
    else if n > 0 then blockRest quote label fuel (quote :: acc) (c.skip 1)
    else
      match lineEnd? c with
      | some d => blockRest quote label fuel ('\n' :: acc) d
      | none =>
        match c.rest with
        | '\\' :: _ =>
          if quote == '\'' then blockRest quote label fuel ('\\' :: acc) (c.skip 1)
          else
            match lineEnd? (skipSpace (c.skip 1)) with
            | some d =>
              blockRest quote label fuel acc (skipBlankLines (d.rest.length + 1) d)
            | none =>
              match escape (c.skip 1) with
              | .ok (ch, c) => blockRest quote label fuel (ch :: acc) c
              | .error e => .error (e.label label)
        | ch :: _ =>
          if isPlain ch then blockRest quote label fuel (ch :: acc) (c.skip 1)
          else .error ((Refusal.here c.offset).label label).final
        | [] => .error ((Refusal.here c.offset).label label).final

/-- A string, at its quote. A line end behind three opening quotes is no part of it. -/
def anyString (c : Cursor) : Scan String :=
  let quote := if c.sees '"' then '"' else '\''
  if quotes quote 3 c == 3 then
    let label := if quote == '"' then "multiline basic string" else "multiline literal string"
    let c := c.skip 3
    blockRest quote label (c.rest.length + 1) [] ((lineEnd? c).getD c)
  else string c

/-! ## Names -/

/-- A character of a name without quotes. -/
def isNameChar (c : Char) : Bool := c.isAlphanum || c == '_' || c == '-'

/-- One part of a name. -/
def simpleKey (c : Cursor) : Scan Key :=
  let key (text : String) (d : Cursor) : Key × Cursor :=
    (⟨text, String.ofList (between c d), ⟨c.offset, d.offset⟩⟩, d)
  if c.sees '"' || c.sees '\'' then
    match string c with
    | .ok (text, d) => .ok (key text d)
    | .error e => .error e
  else
    let (text, d) := c.takeWhile isNameChar
    if text.isEmpty then .error (Refusal.here c.offset) else .ok (key (String.ofList text) d)

/-- The parts of a name behind the first; `fuel` bounds their number. A dot with no part behind it
is left. -/
def keyRest : Nat → List Key → Cursor → Scan (List Key)
  | 0, acc, c => .ok (acc.reverse, c)
  | fuel + 1, acc, c =>
    if !c.sees '.' then .ok (acc.reverse, c)
    else
      match simpleKey (skipSpace (c.skip 1)) with
      | .ok (k, d) => keyRest fuel (k :: acc) (skipSpace d)
      | .error e => if e.isFinal then .error e else .ok (acc.reverse, c)

/-- More parts than a name may have, and more levels than a value may have. -/
def maxDepth : Nat := 80

/-- A name of one or more parts with dots between them. -/
def key (c : Cursor) : Scan (List Key) :=
  let parts : Scan (List Key) :=
    match simpleKey (skipSpace c) with
    | .ok (k, d) => keyRest (d.rest.length + 1) [k] (skipSpace d)
    | .error e => .error e
  match parts with
  | .error e => .error (e.label "key")
  | .ok (ks, d) =>
    if ks.length ≥ maxDepth then 
      .error { Refusal.here c.offset with cause := some .tooDeep }
    else .ok (ks, d)

/-! ## Numbers -/

/-- What follows the first digit of a number, digits that may have single underscores between them:
the place behind it, or the place behind an underscore that no digit follows. -/
def digitsFrom (isDigit : Char → Bool) : List Char → Nat → Except Nat Nat
  | [], n => .ok n
  | c :: cs, n =>
    if isDigit c then digitsFrom isDigit cs (n + 1)
    else if c == '_' then
      if cs.head?.any isDigit then digitsFrom isDigit cs (n + 1) else .error (n + 1)
    else .ok n

/-- Digits at a place, at least one. -/
def digits (isDigit : Char → Bool) (c : Cursor) : Except Refusal Cursor :=
  match c.rest with
  | d :: cs =>
    if !isDigit d then .error (Refusal.here c.offset)
    else
      match digitsFrom isDigit cs 1 with
      | .ok n => .ok (c.skip n)
      | .error n => .error ((Refusal.here (c.offset + n)).expecting ["digit"]).final
  | [] => .error (Refusal.here c.offset)

/-- The place behind a sign, if there is one. -/
def skipSign (c : Cursor) : Cursor := if c.sees '+' || c.sees '-' then c.skip 1 else c

/-- A decimal integer: no digit follows a leading zero. -/
def decimalRun (c : Cursor) : Except Refusal Cursor :=
  let c := skipSign c
  let run := if c.sees '0' then .ok (c.skip 1) else digits Text.isDecimal c
  match run with
  | .ok d => .ok d
  | .error e => .error (e.label "integer")

/-- Digits behind a point. -/
def fractionRun (c : Cursor) : Except Refusal Cursor :=
  match digits Text.isDecimal (c.skip 1) with
  | .ok d => .ok d
  | .error e => .error (e.expecting ["digit"]).final

/-- Digits behind the sign of an exponent. -/
def exponentRun (c : Cursor) : Except Refusal Cursor :=
  match digits Text.isDecimal (skipSign (c.skip 1)) with
  | .ok d => .ok d
  | .error e => .error e.final

/-- A mark of an exponent. -/
def seesExponent (c : Cursor) : Bool := c.sees 'e' || c.sees 'E'

/-- A number with a fraction or an exponent, or none if there is neither. -/
def floatRun (c : Cursor) : Except Refusal (Option Cursor) := do
  match decimalRun c with
  | .error e => if e.isFinal then .error e else return none
  | .ok d =>
    if seesExponent d then return some (← exponentRun d)
    else if d.sees '.' then
      let e ← fractionRun d
      if seesExponent e then return some (← exponentRun e)
      return some e
    else return none

/-- The text of a number with a fraction, written without an exponent. -/
def showFloat (isNegative : Bool) (size : Text.Binary64) : String :=
  let digits :=
    match size with
    | .infinite => "inf".toList
    | .finite m q =>
      let (digits, e) := Text.Binary64.shortest m q
      let ds := Text.decimal digits
      let point : Int := ds.length + e
      if digits == 0 then "0.0".toList
      else if (ds.length : Int) ≤ point then ds ++ List.replicate e.toNat '0' ++ ".0".toList
      else if 0 < point then ds.take point.toNat ++ '.' :: ds.drop point.toNat
      else "0.".toList ++ List.replicate (-point).toNat '0' ++ ds
  (if isNegative then "-" else "") ++ String.ofList digits

/-- The number that a text with a fraction or an exponent denotes. -/
def readFloat (cs : List Char) : Text.Binary64 :=
  let cs := cs.filter fun c => c != '_' && c != '+'
  let isExponent (c : Char) : Bool := c == 'e' || c == 'E'
  let mantissa := cs.takeWhile fun c => !isExponent c
  let exponent := (cs.dropWhile fun c => !isExponent c).drop 1
  let whole := mantissa.takeWhile (· != '.')
  let fraction := (mantissa.dropWhile (· != '.')).drop 1
  let e : Int :=
    match exponent with
    | '-' :: ds => -(Text.readDecimal ds : Int)
    | ds => Text.readDecimal ds
  let m := Text.readDecimal (whole ++ fraction)
  let e := e - fraction.length
  if m == 0 then .finite 0 0
  else if e < -5000 then .finite 0 0
  else if e > 5000 then .infinite
  else
    let p := Text.Binary64.power 10 e
    Text.Binary64.ofRatio (m * p.1) p.2

/-- An integer that is written at a place; it has to fit in 64 bits. -/
def fitInteger (offset : Nat) (value : Int) : Except Refusal Int :=
  if value > Int.pow 2 63 - 1 then .error (.because offset .tooLarge)
  else if value < -Int.pow 2 63 then .error (.because offset .tooSmall)
  else .ok value

/-- An integer in base 16, 8 or 2, at its zero. -/
def basedInteger (base : Nat) (label : String) (c : Cursor) : Except Refusal (Node × Cursor) := do
  let isDigit (ch : Char) : Bool := (Text.digitValue? ch).any (· < base)
  match digits isDigit (c.skip 2) with
  | .error e => .error (e.label label).final
  | .ok d =>
    let ds := (between (c.skip 2) d).filter (· != '_')
    let value := ds.foldl (fun n ch => base * n + (Text.digitValue? ch).getD 0) 0
    return (.integer (← fitInteger c.offset value), d)

/-- An integer. -/
def integer (c : Cursor) : Except Refusal (Node × Cursor) := do
  match c.rest with
  | '0' :: 'x' :: _ => basedInteger 16 "hexadecimal integer" c
  | '0' :: 'o' :: _ => basedInteger 8 "octal integer" c
  | '0' :: 'b' :: _ => basedInteger 2 "binary integer" c
  | _ =>
    let d ← decimalRun c
    let ds := (between (skipSign c) d).filter (· != '_')
    let size := Text.readDecimal ds
    let value : Int := if c.sees '-' then -(size : Int) else size
    return (.integer (← fitInteger c.offset value), d)

/-- A number with a fraction or an exponent, infinity or no number. -/
def float (c : Cursor) : Except Refusal (Node × Cursor) := do
  let refused (e : Refusal) : Except Refusal (Node × Cursor) :=
    .error (e.label "floating-point number")
  match floatRun c with
  | .error e => refused e
  | .ok (some d) =>
    let size := readFloat (between (skipSign c) d)
    if size == .infinite && !c.sees '-' then refused (Refusal.here c.offset).final
    else return (.float (showFloat (c.sees '-') size), d)
  | .ok none =>
    let d := skipSign c
    match d.rest with
    | 'i' :: 'n' :: 'f' :: _ =>
      return (.float (showFloat (c.sees '-') .infinite), d.skip 3)
    | 'n' :: 'a' :: 'n' :: _ => return (.float "NaN", d.skip 3)
    | _ => refused (Refusal.here d.offset)

/-! ## Dates and times -/

/-- A number of exactly `width` digits between two bounds. -/
def field (width least most : Nat) (c : Cursor) : Scan Nat :=
  let ds := (c.rest.take width).takeWhile Text.isDecimal
  let n := Text.readDecimal ds
  if ds.length < width then .error (Refusal.here c.offset)
  else if least ≤ n ∧ n ≤ most then .ok (n, c.skip width)
  else .error { Refusal.here c.offset with cause := some .outOfRange }

/-- A mark between two fields. -/
def mark (ch : Char) (c : Cursor) : Except Refusal Cursor :=
  if c.sees ch then .ok (c.skip 1) else .error (Refusal.here c.offset)

/-- Nothing else can be meant by what a scanner refuses. -/
def settled {α : Type} (s : Except Refusal α) : Except Refusal α :=
  match s with
  | .ok a => .ok a
  | .error e => .error e.final

/-- The days of a month. -/
def daysOf (year month : Nat) : Nat :=
  let isLeap := year % 4 == 0 && (year % 100 != 0 || year % 400 == 0)
  match month with
  | 2 => if isLeap then 29 else 28
  | 4 | 6 | 9 | 11 => 30
  | _ => 31

/-- A date. -/
def date (c : Cursor) : Except Refusal Cursor := do
  let (year, c) ← field 4 0 9999 c
  let c ← mark '-' c
  settled do
    let (month, c) ← field 2 1 12 c
    let c ← mark '-' c
    let (day, d) ← field 2 1 31 c
    if day > daysOf year month then throw (.because c.offset .outOfRange)
    return d

/-- A time of day. -/
def time (c : Cursor) : Except Refusal Cursor := do
  let (_, c) ← field 2 0 23 c
  let c ← mark ':' c
  settled do
    let (_, c) ← field 2 0 59 c
    let c ← mark ':' c
    let (_, c) ← field 2 0 60 c
    if c.sees '.' && (c.skip 1).peek.any Text.isDecimal then
      return ((c.skip 1).takeWhile Text.isDecimal).2
    return c

/-- A difference from universal time, if there is one. -/
def zone (c : Cursor) : Except Refusal Cursor := do
  if c.sees 'Z' || c.sees 'z' then return c.skip 1
  if !(c.sees '+' || c.sees '-') then return c
  settled do
    let (_, c) ← field 2 0 23 (c.skip 1)
    let c ← mark ':' c
    let (_, c) ← field 2 0 59 c
    return c

/-- A date, a time or both; none if neither can be meant. -/
def dateTime (c : Cursor) : Except Refusal (Option Cursor) := do
  match date c with
  | .ok d =>
    if d.sees 'T' || d.sees 't' || d.sees ' ' then
      match time (d.skip 1) with
      | .ok e =>
        match zone e with
        | .ok f => return some f
        | .error r => .error (r.label "time offset" |>.label "date-time")
      | .error r => if r.isFinal then .error (r.label "date-time") else return some d
    else return some d
  | .error e =>
    if e.isFinal then .error (e.label "date-time")
    else
      match time c with
      | .ok d => return some d
      | .error e => if e.isFinal then .error (e.label "time") else return none

/-- A number, a date or a time. -/
def numeric (c : Cursor) : Except Refusal (Node × Cursor) := do
  match ← dateTime c with
  | some d => return (.dateTime, d)
  | none =>
    match float c with
    | .ok r => return r
    | .error e => if e.isFinal then .error e else integer c

end LivePreview.Toml
