import NetworkRollout.Number.Shortest

/-!
# Decimals cut from the upper end

A decimal that reads back as a given double, in 64-bit arithmetic. The double and the ends of the
numbers that round to it are scaled by a power of ten. Digits of the upper end are written until
the rest is within the interval. If that happens before the ninth digit behind the point, the last
digit is then lowered as long as that leads closer to the double; otherwise it stays, and the
decimal need not be the nearest one.

* `Binary64.cut`: the decimal.
-/

namespace NetworkRollout

/-- A number `significand * 2 ^ exponent`. -/
structure Scaled where
  significand : Nat
  exponent : Int
  deriving DecidableEq, Repr

namespace Scaled

/-- The same number with 64 bits in its significand. -/
def normalize (x : Scaled) : Scaled :=
  let shift := 63 - Nat.log2 x.significand
  ⟨x.significand * twoTo shift, x.exponent - shift⟩

def lowerTo (exponent : Int) (x : Scaled) : Scaled :=
  ⟨x.significand * twoTo (x.exponent - exponent).toNat, exponent⟩

/-- The product rounded to 64 bits. -/
def mul (x y : Scaled) : Scaled :=
  ⟨(x.significand * y.significand + twoTo 63) / twoTo 64, x.exponent + y.exponent + 64⟩

/-- A power of ten rounded to 64 bits. -/
def powerOfTen (p : Int) : Scaled :=
  let (num, den) := if 0 ≤ p then (tenTo p.toNat, 1) else (1, tenTo (-p).toNat)
  let size : Int := (Nat.log2 num : Int) - Nat.log2 den
  let e := if num * twoTo (-size).toNat < den * twoTo size.toNat then size - 64 else size - 63
  let (n, d) := scaleQuotient num den e
  ⟨roundQuotient n d, e⟩

end Scaled

/-- The power of ten that brings a number with 64 bits and the given exponent between 2⁴ and
2³². Only every eighth power is used. -/
def scalingPower (exponent : Int) : Int :=
  let tenths := -((61 + exponent) * 30102999566398114 / tenTo 17)
  8 * ((tenths + 347) / 8 + 1) - 348

/-- Lowers the last digit while that leads closer to a value that lies `target` below the upper
end; `rest` is how far the digits are below it and `step` is the weight of the last digit. -/
def approach (width target step : Nat) : Nat → Nat → Nat → Nat
  | 0, _, n => n
  | tries + 1, rest, n =>
    if rest < target ∧ rest + step ≤ width
        ∧ (rest + step < target ∨ rest + step - target < target - rest) then
      approach width target step tries (rest + step) (n - 1)
    else n

/-- Writes the digits of a whole number; the first argument counts the digits still to come. -/
def cutWhole (width target pointBits fraction : Nat) : Nat → Nat → Nat → Option (Nat × Nat)
  | 0, _, _ => none
  | left + 1, whole, n =>
    let unit := tenTo left
    let digits := n * 10 + whole / unit
    let rest := whole % unit * twoTo pointBits + fraction
    if rest ≤ width then
      some (approach width target (unit * twoTo pointBits) 10 rest digits, left)
    else cutWhole width target pointBits fraction left (whole % unit) digits

/-- Writes digits behind the point; `place` of them are written already. -/
def cutFraction (pointBits : Nat) : Nat → Nat → Nat → Nat → Nat → Nat → Nat × Nat
  | 0, place, _, _, _, n => (n, place)
  | tries + 1, place, width, target, fraction, n =>
    let width := width * 10
    let target := target * 10
    let digits := n * 10 + fraction * 10 / twoTo pointBits
    let rest := fraction * 10 % twoTo pointBits
    if rest < width then
      (approach width (if place + 1 < 9 then target else 0) (twoTo pointBits) 10 rest digits,
        place + 1)
    else cutFraction pointBits tries (place + 1) width target rest digits

namespace Binary64

/-- A decimal that reads back as a finite double, without its sign. -/
def cut (x : Binary64) : Decimal :=
  if x.magnitude = 0 then ⟨0, 0⟩
  else
    let (m, e) := x.parts
    let upper := Scaled.normalize ⟨2 * m + 1, e - 1⟩
    let lower := (if m = twoTo 52 then ⟨4 * m - 1, e - 2⟩ else ⟨2 * m - 1, e - 1⟩ : Scaled).lowerTo
      upper.exponent
    let power := scalingPower upper.exponent
    let scale := Scaled.powerOfTen power
    let value := (Scaled.normalize ⟨m, e⟩).mul scale
    let top := (upper.mul scale).significand - 1
    let width := top - ((lower.mul scale).significand + 1)
    let target := top - value.significand
    let pointBits := (-value.exponent).toNat
    let whole := top / twoTo pointBits
    let fraction := top % twoTo pointBits
    let size := (Nat.toDigits 10 whole).length
    match cutWhole width target pointBits fraction size whole 0 with
    | some (n, zeros) => ⟨n, zeros - power⟩
    | none =>
      let (n, places) := cutFraction pointBits 20 0 width target fraction whole
      ⟨n, -places - power⟩

end Binary64

end NetworkRollout
