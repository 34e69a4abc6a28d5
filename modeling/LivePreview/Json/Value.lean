import LivePreview.Json.Quoted
import LivePreview.Text.Binary64

/-!
# JSON values

The reader accepts the notation and nothing else: numbers have to be finite, and values are nested
less than 128 deep.
-/

namespace LivePreview.Json

/-- A JSON value. Numbers are not told apart. -/
inductive Value where
  | null
  | boolean (value : Bool)
  | number
  | string (text : List Char)
  | array (items : List Value)
  | object (members : List (List Char × Value))

/-- The text behind blanks. -/
def skipBlanks (cs : List Char) : List Char :=
  cs.dropWhile fun c => c == ' ' || c == '\n' || c == '\t' || c == '\r'

/-- Digits, at least one, and what is behind them. -/
def digits (cs : List Char) : Option (List Char × List Char) :=
  let ds := cs.takeWhile Text.isDecimal
  if ds.isEmpty then none else some (ds, cs.dropWhile Text.isDecimal)

/-- The whole part of a number: no digit follows a leading zero. -/
def wholePart (cs : List Char) : Option (List Char × List Char) :=
  match cs with
  | '0' :: rest => if rest.head?.any Text.isDecimal then none else some (['0'], rest)
  | cs => digits cs

/-- The digits of an exponent with its sign, if there is one. -/
def exponentPart (cs : List Char) : Option (Int × List Char) :=
  match cs with
  | c :: rest =>
    if c == 'e' || c == 'E' then
      match rest with
      | '+' :: rest => (digits rest).map fun (ds, rest) => ((Text.readDecimal ds : Int), rest)
      | '-' :: rest => (digits rest).map fun (ds, rest) => (-(Text.readDecimal ds : Int), rest)
      | rest => (digits rest).map fun (ds, rest) => ((Text.readDecimal ds : Int), rest)
    else some (0, cs)
  | [] => some (0, [])

/-- The number of the digits that fit in 64 bits behind `n`, and how many digits are left. -/
def fitDigits : Nat → List Char → Nat × Nat
  | n, [] => (n, 0)
  | n, d :: ds =>
    let next := 10 * n + Text.readDecimal [d]
    if next < Nat.pow 2 64 then fitDigits next ds else (n, ds.length + 1)

/-- The double nearest to `n` times the one nearest to `10 ^ e` is finite. -/
def isFinite (n : Nat) (e : Int) : Bool :=
  if n == 0 || e < 0 then true
  else if e > 308 then false
  else
    match Text.Binary64.ofRatio n 1, Text.Binary64.ofRatio (Nat.pow 10 e.toNat) 1 with
    | .finite m q, .finite m' q' =>
      let p := Text.Binary64.power 2 (q + q')
      Text.Binary64.ofRatio (m * m' * p.1) p.2 != .infinite
    | _, _ => false

/-- A number, and what is behind it. -/
def number (cs : List Char) : Option (List Char) := do
  let cs := match cs with
    | '-' :: rest => rest
    | cs => cs
  let (whole, cs) ← wholePart cs
  let (fraction, cs) ←
    match cs with
    | '.' :: rest => digits rest
    | cs => some ([], cs)
  let (e, cs) ← exponentPart cs
  -- Digits beyond 64 bits only count by their number.
  let (n, left) := fitDigits 0 whole
  let (n, leftBehind) := fitDigits n fraction
  if isFinite n (e + left - (fraction.length - leftBehind : Nat)) then some cs else none

mutual

/-- A value nested less than `depth` deep, and what is behind it; `fuel` bounds the steps. -/
def value : Nat → Nat → List Char → Option (Value × List Char)
  | 0, _, _ => none
  | fuel + 1, depth, cs =>
    match skipBlanks cs with
    | 'n' :: 'u' :: 'l' :: 'l' :: rest => some (.null, rest)
    | 't' :: 'r' :: 'u' :: 'e' :: rest => some (.boolean true, rest)
    | 'f' :: 'a' :: 'l' :: 's' :: 'e' :: rest => some (.boolean false, rest)
    | '"' :: rest => (decode rest).map fun (text, rest) => (.string text, rest)
    | '[' :: rest =>
      if depth ≤ 1 then none
      else
        match skipBlanks rest with
        | ']' :: rest => some (.array [], rest)
        | rest => (items fuel (depth - 1) rest).map fun (vs, rest) => (.array vs, rest)
    | '\x7b' :: rest =>
      if depth ≤ 1 then none
      else
        match skipBlanks rest with
        | '\x7d' :: rest => some (.object [], rest)
        | rest => (members fuel (depth - 1) rest).map fun (ms, rest) => (.object ms, rest)
    | cs => (number cs).map fun rest => (.number, rest)

/-- The items of an array, at least one, up to its bracket. -/
def items : Nat → Nat → List Char → Option (List Value × List Char)
  | 0, _, _ => none
  | fuel + 1, depth, cs =>
    match value fuel depth cs with
    | none => none
    | some (v, rest) =>
      match skipBlanks rest with
      | ',' :: rest => (items fuel depth rest).map fun (vs, rest) => (v :: vs, rest)
      | ']' :: rest => some ([v], rest)
      | _ => none

/-- The members of an object, at least one, up to its brace. -/
def members : Nat → Nat → List Char → Option (List (List Char × Value) × List Char)
  | 0, _, _ => none
  | fuel + 1, depth, cs =>
    match skipBlanks cs with
    | '"' :: rest =>
      match decode rest with
      | none => none
      | some (name, rest) =>
        match skipBlanks rest with
        | ':' :: rest =>
          match value fuel depth rest with
          | none => none
          | some (v, rest) =>
            match skipBlanks rest with
            | ',' :: rest =>
              (members fuel depth rest).map fun (ms, rest) => ((name, v) :: ms, rest)
            | '\x7d' :: rest => some ([(name, v)], rest)
            | _ => none
        | _ => none
    | _ => none

end

/-- Arrays and objects are nested less deep than this. -/
def maxDepth : Nat := 128

/-- The value that a text is. -/
def read (cs : List Char) : Option Value :=
  match value (2 * cs.length + 2) maxDepth cs with
  | some (v, rest) => if (skipBlanks rest).isEmpty then some v else none
  | none => none

/-- An object whose members are strings, on one line. -/
def compact (members : List (List Char × List Char)) : List Char :=
  let member (m : List Char × List Char) : List Char := quote m.1 ++ ':' :: quote m.2
  '\x7b' :: [','].intercalate (members.map member) ++ ['\x7d']

/-- An object whose members are strings, a line each. -/
def pretty (members : List (List Char × List Char)) : List Char :=
  let member (m : List Char × List Char) : List Char :=
    ' ' :: ' ' :: quote m.1 ++ ':' :: ' ' :: quote m.2
  '\x7b' :: '\n' :: [',', '\n'].intercalate (members.map member) ++ ['\n', '\x7d']

end LivePreview.Json
