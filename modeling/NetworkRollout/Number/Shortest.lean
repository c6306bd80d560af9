import NetworkRollout.Number.Binary64

/-!
# Shortest decimals

The decimal with the fewest digits that reads back as a given double and, among those of that
length, the nearest. The decimals that read back form an interval around the double, whose ends
belong to it when the significand is even. For one digit, then two, and so on to seventeen, the
two neighbours of the double on the grid of that many digits are tried.
-/

namespace NetworkRollout

/-- A decimal number `digits * 10 ^ exponent`. -/
structure Decimal where
  digits : Nat
  exponent : Int
  deriving DecidableEq, Inhabited, Repr

namespace Binary64

/-- The numbers that round to a double, as a common denominator with the lower end, the double
and the upper end as numerators, and whether the ends belong. -/
structure RoundingInterval where
  denominator : Nat
  lower : Nat
  value : Nat
  upper : Nat
  closed : Bool

/-- The interval around a finite positive double. Below a power of two the doubles lie twice as
dense. -/
def roundingInterval (x : Binary64) : RoundingInterval :=
  let (m, e) := x.parts
  let dense := m = twoTo 52 ∧ -1074 < e
  let (num, den) := if 0 ≤ e then (m * twoTo e.toNat, 1) else (m, twoTo (-e).toNat)
  let half := if 0 ≤ e then twoTo e.toNat else 1
  { denominator := 4 * den
    lower := 4 * num - (if dense then half else 2 * half)
    value := 4 * num
    upper := 4 * num + 2 * half
    closed := m % 2 = 0 }

/-- Whether `n * 10 ^ p` rounds to the double of the interval. -/
def RoundingInterval.holds (i : RoundingInterval) (n : Nat) (p : Int) : Bool :=
  let (a, b) := if 0 ≤ p then (n * tenTo p.toNat * i.denominator, 1)
    else (n * i.denominator, tenTo (-p).toNat)
  if i.closed then i.lower * b ≤ a && a ≤ i.upper * b
  else i.lower * b < a && a < i.upper * b

/-- The neighbour of the double on the grid of step `10 ^ p` that rounds to it, the nearer one
if both do. -/
def RoundingInterval.onGrid? (i : RoundingInterval) (p : Int) : Option Decimal :=
  let (num, den) := if 0 ≤ p then (i.value, i.denominator * tenTo p.toNat)
    else (i.value * tenTo (-p).toNat, i.denominator)
  let below := num / den
  let near := roundQuotient num den
  let far := if near = below then below + 1 else below
  if i.holds near p then some ⟨near, p⟩
  else if i.holds far p then some ⟨far, p⟩
  else none

/-- The number of decimal digits before the point, or minus the number of zeros after it. -/
def decimalPoint (x : Binary64) : Int :=
  let (m, e) := x.parts
  if 0 ≤ e then (Nat.toDigits 10 (m * twoTo e.toNat)).length
  else
    let den := twoTo (-e).toNat
    if den ≤ m then (Nat.toDigits 10 (m / den)).length
    else 1 - ((Nat.toDigits 10 ((den - 1) / m)).length : Int)

/-- The first grid with a hit, from `count` digits on. -/
def searchGrids (i : RoundingInterval) (point : Int) : Nat → Nat → Option Decimal
  | 0, _ => none
  | tries + 1, count =>
    match i.onGrid? (point - count) with
    | some d => some d
    | none => searchGrids i point tries (count + 1)

/-- Removes the zeros at the end. -/
def Decimal.normalize (d : Decimal) : Decimal :=
  go (Nat.log2 d.digits + 1) d
where
  go : Nat → Decimal → Decimal
    | 0, d => d
    | n + 1, d =>
      if d.digits ≠ 0 ∧ d.digits % 10 = 0 then go n ⟨d.digits / 10, d.exponent + 1⟩ else d

/-- The shortest decimal that rounds to a finite double, without its sign. -/
def shortest (x : Binary64) : Decimal :=
  if x.magnitude = 0 then ⟨0, 0⟩
  else
    match searchGrids x.roundingInterval x.decimalPoint 18 1 with
    | some d => Decimal.normalize d
    | none => ⟨0, 0⟩

end Binary64

end NetworkRollout
