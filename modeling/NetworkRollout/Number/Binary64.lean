import NetworkRollout.Number.Power

/-!
# Double-precision numbers

A double is kept as its 64 bits. Values are rounded from exact quotients of natural numbers, to
the nearest double and, between two equally near, to the one with the even significand, so that
every step is arithmetic on `Nat`.

* `roundQuotient`: the natural number nearest to a quotient.
* `significand`: the 53-bit significand and the power of two of the nearest double.
* `Binary64.ofQuotient`, `Binary64.ofDecimal`: the double itself.
-/

namespace NetworkRollout

/-- The natural number nearest to `num / den`, the even one of two equally near. -/
def roundQuotient (num den : Nat) : Nat :=
  let q := num / den
  let twice := 2 * (num % den)
  if twice < den then q
  else if den < twice then q + 1
  else if q % 2 = 0 then q
  else q + 1

/-- The quotient `num / den / 2 ^ e` as numerator and denominator. -/
def scaleQuotient (num den : Nat) (e : Int) : Nat × Nat :=
  if 0 ≤ e then (num, den * twoTo e.toNat) else (num * twoTo (-e).toNat, den)

/-- The exponent of the last significand bit of the doubles around `num / den`: 53 bits before
it, and never below that of the smallest double. -/
def unitExponent (num den : Nat) : Int :=
  let e := (Nat.log2 num : Int) - Nat.log2 den - 53
  let (n, d) := scaleQuotient num den e
  if n / d < twoTo 53 then max e (-1074) else max (e + 1) (-1074)

/-- Significand `m` and exponent `e` of the double `m * 2 ^ e` nearest to `num / den`. -/
def significand (num den : Nat) : Nat × Int :=
  let e := unitExponent num den
  let (n, d) := scaleQuotient num den e
  (roundQuotient n d, e)

/-- A double, given by its 64 bits. -/
structure Binary64 where
  bits : UInt64
  deriving DecidableEq, Inhabited, Repr

namespace Binary64

def infinityBits : Nat := 0x7FF * twoTo 52

def signed (negative : Bool) (magnitude : Nat) : Binary64 :=
  ⟨UInt64.ofNat (if negative then twoTo 63 + magnitude else magnitude)⟩

def infinity (negative : Bool) : Binary64 := signed negative infinityBits

/-- Zero with the given sign. -/
def zero (negative : Bool) : Binary64 := signed negative 0

def notANumber : Binary64 := ⟨0x7FF8000000000000⟩

/-- The double nearest to `num / den`. A significand that rounds up to 2⁵³ carries into the
exponent field by itself, and what exceeds the largest double is infinite. -/
def ofQuotient (negative : Bool) (num den : Nat) : Binary64 :=
  if num = 0 then zero negative
  else
    let (m, e) := significand num den
    signed negative (min ((e + 1074).toNat * twoTo 52 + m) infinityBits)

/-- The double nearest to `digits * 10 ^ exponent`. Far outside the range of doubles the answer
is zero or infinity, without computing the power. -/
def ofDecimal (negative : Bool) (digits : Nat) (exponent : Int) : Binary64 :=
  if digits = 0 then zero negative
  else
    let size : Int := (Nat.toDigits 10 digits).length
    if 400 < exponent + size then infinity negative
    else if exponent + size < -400 then zero negative
    else if 0 ≤ exponent then ofQuotient negative (digits * tenTo exponent.toNat) 1
    else ofQuotient negative digits (tenTo (-exponent).toNat)

def isNegative (x : Binary64) : Bool := twoTo 63 ≤ x.bits.toNat

/-- The bits without the sign. -/
def magnitude (x : Binary64) : Nat := x.bits.toNat % twoTo 63

/-- Neither infinite nor a not-a-number. -/
def isFinite (x : Binary64) : Bool := x.magnitude < infinityBits

/-- Significand `m` and exponent `e` of the finite absolute value `m * 2 ^ e`. -/
def parts (x : Binary64) : Nat × Int :=
  let field : Nat := x.magnitude / twoTo 52
  let fraction : Nat := x.magnitude % twoTo 52
  if field = 0 then (fraction, -1074) else (twoTo 52 + fraction, (field : Int) - 1075)

def toFloat (x : Binary64) : Float := Float.ofBits x.bits

def ofFloat (x : Float) : Binary64 := ⟨x.toBits⟩

end Binary64

end NetworkRollout
