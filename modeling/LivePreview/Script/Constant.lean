import LivePreview.Script.Fold
import LivePreview.Script.Lexer.Quoted
import LivePreview.Script.Numeral

/-!
# Constants of enumerations

The value of a member of an enumeration, where it can be told from its source: numbers, strings,
operators on them, and members that came before.
-/

namespace LivePreview.Script

/-- A value that is known before the script runs. -/
inductive Constant where
  | number (x : Float)
  | string (points : List Nat)

namespace Constant

/-- A double as a number that can be computed with. -/
def ofBinary64 : Text.Binary64 → Float
  | .finite m q => Float.scaleB (Float.ofNat m) q
  | .infinite => 1.0 / 0.0

/-- The size of a number, without its sign. -/
def toBinary64 (x : Float) : Text.Binary64 :=
  let bits : Nat := x.toBits.toNat % Nat.pow 2 63
  let fraction : Nat := bits % Nat.pow 2 52
  let exponent : Nat := bits / Nat.pow 2 52
  if exponent == 2047 then .infinite
  else if exponent == 0 then .finite fraction (-1074)
  else .finite (fraction + Nat.pow 2 52) ((exponent : Int) - 1075)

/-- The whole part of a size; an infinite one has none. -/
def wholePart : Text.Binary64 → Nat
  | .finite m q => if q < 0 then m / Nat.pow 2 q.natAbs else m * Nat.pow 2 q.natAbs
  | .infinite => 0

/-- A number without its fraction. -/
def truncate (x : Float) : Int :=
  let size := wholePart (toBinary64 x)
  if x < 0.0 then -(size : Int) else (size : Int)

/-- A number as 32 bits. -/
def toBits32 (x : Float) : Nat := (truncate x % Int.pow 2 32).toNat

/-- 32 bits as a number, the highest bit being the sign. -/
def ofBits32 (n : Nat) : Float :=
  let n := n % Nat.pow 2 32
  if n < Nat.pow 2 31 then Float.ofNat n else Float.ofInt ((n : Int) - Int.pow 2 32)

/-- A sign bit is set, as it is in a negative zero. -/
def isNegative (x : Float) : Bool := x < 0.0 || (x == 0.0 && 1.0 / x < 0.0)

/-- The remainder of two sizes, exactly. -/
def remainderOfSizes (x y : Text.Binary64) : Text.Binary64 :=
  match x, y with
  | .finite m q, .finite n p =>
    let least := min q p
    let rest := (m * Nat.pow 2 (q - least).toNat) % (n * Nat.pow 2 (p - least).toNat)
    let (num, den) := Text.Binary64.power 2 least
    .ofRatio (rest * num) den
  | x, _ => x

/-- The remainder that has the sign of the dividend. -/
def remainder (x y : Float) : Float :=
  if x.isNaN || y.isNaN || x.isInf || y == 0.0 then 0.0 / 0.0
  else
    let size := ofBinary64 (remainderOfSizes (toBinary64 x) (toBinary64 y))
    if isNegative x then -size else size

/-- The value of an operator on two numbers. -/
def operate (operator : String) (x y : Float) : Option Float :=
  match operator with
  | "+" => some (x + y)
  | "-" => some (x - y)
  | "*" => some (x * y)
  | "/" => some (x / y)
  | "%" => some (remainder x y)
  | "**" => some (x.pow y)
  | "<<" => some (ofBits32 (toBits32 x <<< (toBits32 y % 32)))
  | ">>" => some (Float.ofInt (truncate (ofBits32 (toBits32 x)) >>> (toBits32 y % 32)))
  | ">>>" => some (Float.ofNat (toBits32 x >>> (toBits32 y % 32)))
  | "&" => some (ofBits32 (toBits32 x &&& toBits32 y))
  | "|" => some (ofBits32 (toBits32 x ||| toBits32 y))
  | "^" => some (ofBits32 (toBits32 x ^^^ toBits32 y))
  | _ => none

/-- A number's text where strings are put together. -/
def numberText (x : Float) : List Nat :=
  let size := match toBinary64 x with
    | .infinite => if x.isNaN then "NaN".toList else "Infinity".toList
    | .finite m q =>
      let (digits, e) := Text.Binary64.shortest m q
      let (digits, e) := Numeral.stripZeros 20 digits e
      if digits == 0 then ['0'] else Numeral.positional digits e
  ((if x < 0.0 then ['-'] else []) ++ size).map Char.toNat

/-- A value as a string. -/
def toText : Constant → List Nat
  | number x => numberText x
  | string points => points

/-- The code points that a part of a template denotes; `fuel` bounds the number of characters. -/
def templatePoints : Nat → Text.Cursor → List Nat
  | 0, _ => []
  | fuel + 1, c =>
    match c.rest with
    | [] => []
    | '\\' :: _ =>
      match escape? (c.skip 1) with
      | some (points, behind) => points ++ templatePoints fuel behind
      | none => []
    | ch :: _ => ch.toNat :: templatePoints fuel (c.skip 1)

/-- The code points that the source of a template's part denotes. -/
def partPoints (part : String) : List Nat :=
  joinSurrogates (templatePoints part.length (Text.Cursor.start part.toList))

/-- The strings of a template with values between them. -/
def joinTemplate : List String → List Constant → List Nat
  | part :: parts, value :: values => partPoints part ++ value.toText ++ joinTemplate parts values
  | parts, _ => parts.flatMap partPoints

/-- The members of an enumeration so far, with their values where these are known. -/
abbrev Members := List (List Nat × Option Constant)

/-- The known value of a member. -/
def Members.value? (members : Members) (name : List Nat) : Option Constant :=
  (members.lookup name).getD none

/-- The name of the member that a key in brackets asks for. -/
def keyPoints? (key : Node) : Option (List Nat) :=
  match key.form with
  | .string points => some points
  | .template [part] [] => some (partPoints part)
  | _ => none

/-- The value of a unary operator. -/
def operateOn (operator : String) : Constant → Option Constant
  | .number x =>
    match operator with
    | "+" => some (.number x)
    | "-" => some (.number (-x))
    | "~" => some (.number (ofBits32 (toBits32 x ^^^ (Nat.pow 2 32 - 1))))
    | _ => none
  | .string points =>
    match operator with
    | "-" => some (.number (0.0 / 0.0))
    | "~" => some (.number (-1.0))
    | _ => some (.string points)

/-- The value of an expression, given the members of its own enumeration so far and, by their
names, those of the enumerations before it. -/
def of (enumerations : List (String × Members)) (members : Members) (n : Node) :
    Option Constant :=
  let memberOf (object : Node) (name : List Nat) : Option Constant :=
    match object.form with
    | .name text => (enumerations.lookup text).bind fun members => members.value? name
    | _ => none
  n.fold fun n inside =>
    match n.form, inside with
    | .number source, _ => some (.number (ofBinary64 (Numeral.value source)))
    | .string points, _ => some (.string points)
    | .template parts _, values =>
      (values.mapM id).map fun vs => .string (joinTemplate parts vs)
    | .name "Infinity", _ => some (.number (1.0 / 0.0))
    | .name "NaN", _ => some (.number (0.0 / 0.0))
    | .name text, _ => members.value? (text.toList.map Char.toNat)
    | .member object name false, _ => memberOf object (name.toList.map Char.toNat)
    | .index object key false, _ => (keyPoints? key).bind (memberOf object)
    | .parenthesized _, [value] => value
    | .unary operator _, [some c] => operateOn operator c
    | .binary operator _ _, [some (.number x), some (.number y)] =>
      (operate operator x y).map .number
    | .binary "+" _ _, [some a, some b] => some (.string (a.toText ++ b.toText))
    | _, _ => none

end Constant

end LivePreview.Script
