/-!
# Doubles and their shortest digits

1. `Binary64.ofRatio` rounds a ratio to the nearest double, ties to even.
2. `Binary64.shortest` gives the fewest decimal digits that round back to a double, and of these
   the nearest to it: on the grids of 1, 2, … digits it tests the two neighbours of the value.
-/

namespace LivePreview.Text

/-- A double without its sign: `mantissa · 2 ^ exponent`, or infinity. -/
inductive Binary64 where
  | finite (mantissa : Nat) (exponent : Int)
  | infinite
deriving DecidableEq, Repr

namespace Binary64

/-- `base ^ exponent` as a ratio. -/
def power (base : Nat) (exponent : Int) : Nat × Nat :=
  if exponent < 0 then (1, Nat.pow base exponent.natAbs)
  else (Nat.pow base exponent.natAbs, 1)

/-- The nearest integer of a ratio, ties to even. -/
def roundRatio (num den : Nat) : Nat :=
  let floor := num / den
  let twice := 2 * (num % den)
  if twice < den then floor
  else if den < twice then floor + 1
  else if floor % 2 == 0 then floor else floor + 1

/-- The double nearest to `num / den`. -/
def ofRatio (num den : Nat) : Binary64 :=
  if num == 0 || den == 0 then .finite 0 0
  else
    let guess : Int := (num.log2 : Int) - (den.log2 : Int) - 52
    -- The guess is the exponent or one more.
    let scaled (q : Int) : Nat × Nat :=
      if q < 0 then (num * Nat.pow 2 q.natAbs, den) else (num, den * Nat.pow 2 q.natAbs)
    let (n, d) := scaled guess
    let q := if n / d < Nat.pow 2 52 then guess - 1 else guess
    let q := max q (-1074)
    let (n, d) := scaled q
    let m := roundRatio n d
    let (m, q) := if m == Nat.pow 2 53 then (Nat.pow 2 52, q + 1) else (m, q)
    if 971 < q then .infinite else .finite m q

/-- The greatest `e` in reach of the guess with `10 ^ e ≤ num / den`. -/
def decimalExponent (num den : Nat) : Int :=
  let guess : Int := ((num.log2 : Int) - (den.log2 : Int)) * 30103 / 100000
  let fits (e : Int) : Bool :=
    let (p, r) := power 10 e
    p * den ≤ num * r
  if fits (guess + 2) then guess + 2
  else if fits (guess + 1) then guess + 1
  else if fits guess then guess
  else if fits (guess - 1) then guess - 1
  else guess - 2

/-- On the grid of `n` digits: the neighbour of the value that rounds back to it, nearest first. -/
def onGrid (m : Nat) (q : Int) (n : Nat) : Option (Nat × Int) :=
  let (p2, r2) := power 2 q
  let num := m * p2
  let den := r2
  let e := decimalExponent num den - (n : Int) + 1
  let (p10, r10) := power 10 e
  -- The value in units of the grid is `gn / gd`.
  let gn := num * r10
  let gd := den * p10
  let low := gn / gd
  -- Half the distance to the neighbouring doubles, in quarters of the unit in the last place.
  let lowerGap := if m == Nat.pow 2 52 && -1074 < q then 1 else 2
  let closed := m % 2 == 0
  -- `c` lies in the interval: 4·m - lowerGap ≤ 4·c·10^e / 2^q ≤ 4·m + 2.
  let inside (c : Nat) : Bool :=
    let x := 4 * c * p10 * r2
    let unit := r10 * p2
    let lower := (4 * m - lowerGap) * unit
    let upper := (4 * m + 2) * unit
    if closed then lower ≤ x && x ≤ upper else lower < x && x < upper
  let below := low != 0 && inside low
  let above := inside (low + 1)
  let nearerBelow := 2 * (gn % gd) ≤ gd
  match below, above with
  | true, true => if nearerBelow then some (low, e) else some (low + 1, e)
  | true, false => some (low, e)
  | false, true => some (low + 1, e)
  | false, false => none

/-- The fewest digits, from `n` on; `fuel` bounds how many more are tried. -/
def searchDigits (m : Nat) (q : Int) : Nat → Nat → Nat × Int
  | 0, _ => (m, 0)
  | fuel + 1, n =>
    match onGrid m q n with
    | some r => r
    | none => searchDigits m q fuel (n + 1)

/-- Digits and a decimal exponent: the shortest decimal that rounds to a finite double. -/
def shortest (m : Nat) (q : Int) : Nat × Int :=
  if m == 0 then (0, 0) else searchDigits m q 20 1

end Binary64

end LivePreview.Text
