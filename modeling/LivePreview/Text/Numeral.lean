/-!
# Numerals

Digits of natural numbers, most significant first, and the reader that inverts them.
-/

namespace LivePreview.Text

/-- The digit of value `d`, in lower case from ten on. -/
def digitChar (d : Nat) : Char :=
  if d < 10 then Char.ofNat ('0'.toNat + d) else Char.ofNat ('a'.toNat + (d - 10))

/-- The value of a hexadecimal digit of either case. -/
def digitValue? (c : Char) : Option Nat :=
  if '0' ≤ c ∧ c ≤ '9' then some (c.toNat - '0'.toNat)
  else if 'a' ≤ c ∧ c ≤ 'f' then some (c.toNat - 'a'.toNat + 10)
  else if 'A' ≤ c ∧ c ≤ 'F' then some (c.toNat - 'A'.toNat + 10)
  else none

/-- An ASCII decimal digit. -/
def isDecimal (c : Char) : Bool := '0' ≤ c && c ≤ '9'

/-- The decimal digits of `n`, put before `acc`; `fuel` bounds their number. -/
def decimalAux : Nat → Nat → List Char → List Char
  | 0, _, acc => acc
  | fuel + 1, n, acc =>
    if n < 10 then digitChar n :: acc
    else decimalAux fuel (n / 10) (digitChar (n % 10) :: acc)

/-- The decimal digits of a natural number, without leading zeros. -/
def decimal (n : Nat) : List Char := decimalAux (n + 1) n []

/-- The number that a list of decimal digits denotes, other characters counting nothing. -/
def readDecimal (cs : List Char) : Nat :=
  cs.foldl (fun acc c => 10 * acc + (c.toNat - '0'.toNat)) 0

/-- Exactly `width` digits of `n` in base `base`, the most significant first. -/
def fixedDigits (base : Nat) : Nat → Nat → List Char
  | 0, _ => []
  | width + 1, n => fixedDigits base width (n / base) ++ [digitChar (n % base)]

/-- The hexadecimal digits of `n`, put before `acc`; `fuel` bounds their number. -/
def hexAux : Nat → Nat → List Char → List Char
  | 0, _, acc => acc
  | fuel + 1, n, acc =>
    if n < 16 then digitChar n :: acc else hexAux fuel (n / 16) (digitChar (n % 16) :: acc)

/-- The lower-case hexadecimal digits of a natural number, without leading zeros. -/
def hexadecimal (n : Nat) : List Char := hexAux (n + 1) n []

/-- The decimal text of an integer, with a minus sign when it is negative. -/
def signed (n : Int) : List Char :=
  if n < 0 then '-' :: decimal n.natAbs else decimal n.natAbs

end LivePreview.Text
