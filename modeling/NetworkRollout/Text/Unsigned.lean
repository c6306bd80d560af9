/-!
# Unsigned decimal numbers in text

The form in which counts and ports are written: ASCII digits with an optional plus sign, leading
zeros allowed, refused from a bound on.

* `unsigned?_toDigits`: the digits of a number below the bound read back as that number.
-/

namespace NetworkRollout.Text

/-- The text without the sign `+` that it may start with. -/
def dropPlus : List Char → List Char
  | '+' :: rest => rest
  | s => s

/-- A number below the bound, in ASCII digits with one plus sign allowed in front. -/
def unsigned? (bound : Nat) (s : List Char) : Option Nat :=
  let digits := dropPlus s
  if digits ≠ [] ∧ digits.all Char.isDigit then
    let n := Nat.ofDigitChars 10 digits 0
    if n < bound then some n else none
  else none

/-- A number below the bound, where zero may also have a minus sign. -/
def unsignedOrMinusZero? (bound : Nat) : List Char → Option Nat
  | '-' :: rest => if rest ≠ [] ∧ rest.all (· = '0') then some 0 else none
  | s => unsigned? bound s

/-- A number below 2³². -/
def u32? (s : String) : Option UInt32 := (unsigned? UInt32.size s.toList).map UInt32.ofNat

/-- A number below 2⁶⁴. -/
def u64? (s : List Char) : Option Nat := unsigned? UInt64.size s

theorem dropPlus_of_isDigit {s : List Char} (h : ∀ c ∈ s, c.isDigit = true) :
    dropPlus s = s := by
  unfold dropPlus
  split
  next rest => exact absurd (h '+' List.mem_cons_self) (by decide)
  next => rfl

theorem unsigned?_toDigits {bound n : Nat} (h : n < bound) :
    unsigned? bound (Nat.toDigits 10 n) = some n := by
  have hdigit : ∀ c ∈ Nat.toDigits 10 n, c.isDigit = true := fun c hc =>
    Nat.isDigit_of_mem_toDigits (by decide) (by decide) hc
  have hall : (Nat.toDigits 10 n).all Char.isDigit = true := List.all_eq_true.2 hdigit
  have hval : Nat.ofDigitChars 10 (Nat.toDigits 10 n) 0 = n :=
    Nat.ofDigitChars_toDigits (by decide) (by decide)
  simp only [unsigned?, dropPlus_of_isDigit hdigit, hall, hval, ne_eq, Nat.toDigits_ne_nil,
    not_false_eq_true, and_self, if_true, h]

end NetworkRollout.Text
