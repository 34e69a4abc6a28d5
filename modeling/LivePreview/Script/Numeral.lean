import LivePreview.Text.Binary64
import LivePreview.Text.Numeral

/-!
# Numbers in scripts

1. `Numeral.value` is the double that a number's source denotes.
2. `Numeral.render` writes a double in the fewest characters: positional with a point as scripts
   write it, without the zero before the point, with an exponent when that is shorter, in base
   sixteen when even that is longer.
-/

namespace LivePreview.Script.Numeral

open LivePreview.Text

/-- The number of digits in a base. -/
def ofBase (base : Nat) (digits : List Char) : Nat :=
  digits.foldl (fun n c => base * n + (digitValue? c).getD 0) 0

/-- The base and the digits of a number's source, if it is no decimal. -/
def based? (source : List Char) : Option (Nat × List Char) :=
  match source with
  | '0' :: c :: rest =>
    if c == 'x' || c == 'X' then some (16, rest)
    else if c == 'o' || c == 'O' then some (8, rest)
    else if c == 'b' || c == 'B' then some (2, rest)
    else if source.all (fun d => '0' ≤ d && d ≤ '7') then some (8, c :: rest)
    else none
  | _ => none

/-- The digits and the decimal exponent of a decimal's source. -/
def decimalParts (source : List Char) : Nat × Int :=
  let isExponent (c : Char) : Bool := c == 'e' || c == 'E'
  let mantissa := source.takeWhile fun c => !isExponent c
  let exponent := (source.dropWhile fun c => !isExponent c).drop 1
  let whole := mantissa.takeWhile (· != '.')
  let fraction := (mantissa.dropWhile (· != '.')).drop 1
  let e : Int :=
    match exponent with
    | '-' :: ds => -(readDecimal ds : Int)
    | '+' :: ds => readDecimal ds
    | ds => readDecimal ds
  (readDecimal (whole ++ fraction), e - fraction.length)

/-- The double that a number's source denotes. -/
def value (source : List Char) : Binary64 :=
  let source := source.filter (· != '_')
  match based? source with
  | some (base, digits) => .ofRatio (ofBase base digits) 1
  | none =>
    let (digits, e) := decimalParts source
    if digits == 0 then .finite 0 0
    else
      let size : Int := digits.log2 / 3 + 1 + e
      if 400 < e then .infinite
      else if size < -400 then .finite 0 0
      else
        let (p, r) := Binary64.power 10 e
        .ofRatio (digits * p) r

/-- Trailing zeros taken off digits, and how many there were. -/
def stripZeros : Nat → Nat → Int → Nat × Int
  | 0, n, e => (n, e)
  | fuel + 1, n, e => if n != 0 && n % 10 == 0 then stripZeros fuel (n / 10) (e + 1) else (n, e)

/-- The text of a positive decimal as scripts print it: positional from 1e-6 up to 1e21. -/
def positional (digits : Nat) (exponent : Int) : List Char :=
  let ds := decimal digits
  let k := ds.length
  let point : Int := (k : Int) + exponent
  if (k : Int) ≤ point && point ≤ 21 then ds ++ List.replicate (point - k).toNat '0'
  else if 0 < point && point ≤ 21 then ds.take point.toNat ++ '.' :: ds.drop point.toNat
  else if -6 < point && point ≤ 0 then '0' :: '.' :: List.replicate (-point).toNat '0' ++ ds
  else
    let e := point - 1
    let mantissa := match ds with
      | [d] => [d]
      | d :: rest => d :: '.' :: rest
      | [] => []
    mantissa ++ 'e' :: signed e

/-- The shorter of two texts, the first if they are as long. -/
def shorter (a b : List Char) : List Char := if b.length < a.length then b else a

/-- Zeros at the end become an exponent. -/
def foldZeros (cs : List Char) : List Char :=
  let zeros := (cs.reverse.takeWhile (· == '0')).length
  if zeros == 0 then cs
  else shorter cs (cs.take (cs.length - zeros) ++ 'e' :: decimal zeros)

/-- Zeros behind a leading point become an exponent. -/
def foldFraction (cs : List Char) : List Char :=
  match cs with
  | '.' :: '0' :: rest =>
    let digits := rest.dropWhile (· == '0')
    let zeros := rest.length - digits.length + 1
    shorter cs (digits ++ 'e' :: '-' :: decimal (zeros + digits.length))
  | _ => cs

/-- The value of digits that may have a sign. -/
def readSigned : List Char → Int
  | '-' :: ds => -(readDecimal ds : Int)
  | ds => readDecimal ds

/-- A point before an exponent is moved into the exponent. -/
def foldPoint (cs : List Char) : List Char :=
  let whole := cs.takeWhile (· != '.')
  let afterPoint := (cs.dropWhile (· != '.')).drop 1
  let fraction := afterPoint.takeWhile (· != 'e')
  let exponent := (afterPoint.dropWhile (· != 'e')).drop 1
  if afterPoint.isEmpty || exponent.isEmpty then cs
  else shorter cs (whole ++ fraction ++ 'e' :: signed (readSigned exponent - fraction.length))

/-- The text of a finite double, in the fewest characters. -/
def renderFinite (m : Nat) (q : Int) : List Char :=
  let (digits, e) := Binary64.shortest m q
  let (digits, e) := stripZeros 20 digits e
  let text := if digits == 0 then ['0'] else positional digits e
  let isWhole := 0 ≤ e || digits == 0
  if isWhole && text.length ≤ 3 then text
  else
    let text := match text with
      | '0' :: '.' :: rest => '.' :: rest
      | _ => text
    if isWhole then
      let exact := m * (Binary64.power 2 q).1 / (Binary64.power 2 q).2
      let hex := '0' :: 'x' :: hexadecimal exact
      if hex.length < text.length && exact < Nat.pow 2 128 then foldPoint hex
      else foldPoint (foldZeros text)
    else foldPoint (foldFraction text)

/-- The text of a double; infinity is a quotient or a name, as the caller prints it. -/
def render : Binary64 → List Char
  | .finite m q => renderFinite m q
  | .infinite => "Infinity".toList

/-- The decimal text of an integer's source, which ends in `n`. -/
def renderBigint (source : List Char) : List Char :=
  let source := source.filter fun c => c != '_' && c != 'n'
  match based? source with
  | some (base, digits) => decimal (ofBase base digits) ++ ['n']
  | none => decimal (readDecimal source) ++ ['n']

end LivePreview.Script.Numeral
