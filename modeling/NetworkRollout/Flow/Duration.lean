import NetworkRollout.Number.Binary64

/-!
# Durations in text

A duration is a row of numbers with units, such as `1m30s` or `1.5h`, with an optional plus sign
in front; `0` needs no unit. Its value in seconds is the sum of the products, from left to right,
in double precision.
-/

namespace NetworkRollout.Duration

inductive TimeUnit where
  | nanosecond
  | microsecond
  | millisecond
  | second
  | minute
  | hour
  deriving DecidableEq, Repr

namespace TimeUnit

/-- The unit that a text names. Both micro signs are understood. -/
def ofText? (s : List Char) : Option TimeUnit :=
  if s = ['n', 's'] then some nanosecond
  else if s = ['u', 's'] ∨ s = ['\u00b5', 's'] ∨ s = ['\u03bc', 's'] then some microsecond
  else if s = ['m', 's'] then some millisecond
  else if s = ['s'] then some second
  else if s = ['m'] then some minute
  else if s = ['h'] then some hour
  else none

/-- The length of a unit in seconds. -/
def seconds : TimeUnit → Float
  | nanosecond => (Binary64.ofDecimal false 1 (-9)).toFloat
  | microsecond => (Binary64.ofDecimal false 1 (-6)).toFloat
  | millisecond => (Binary64.ofDecimal false 1 (-3)).toFloat
  | second => (Binary64.ofDecimal false 1 0).toFloat
  | minute => (Binary64.ofDecimal false 60 0).toFloat
  | hour => (Binary64.ofDecimal false 3600 0).toFloat

end TimeUnit

def isNumberChar (c : Char) : Bool := c.isDigit || c = '.'

/-- An unsigned decimal with at least one digit and at most one point. -/
structure Number where
  whole : List Char
  fraction : List Char

namespace Number

/-- The number that a row of digits and points writes. -/
def ofText? (s : List Char) : Option Number :=
  let whole := s.takeWhile (· ≠ '.')
  let number? (fraction : List Char) : Option Number :=
    if (whole ++ fraction).isEmpty || !(whole ++ fraction).all Char.isDigit then none
    else some ⟨whole, fraction⟩
  match s.dropWhile (· ≠ '.') with
  | [] => number? []
  | _ :: fraction => number? fraction

/-- The double nearest to a number. -/
def value (n : Number) : Float :=
  (Binary64.ofDecimal false (Nat.ofDigitChars 10 (n.whole ++ n.fraction) 0)
    (-(n.fraction.length : Int))).toFloat

end Number

abbrev Term := Number × TimeUnit

/-- The seconds of a term. -/
def Term.seconds (t : Term) : Float := t.1.value * t.2.seconds

theorem length_dropWhile_le (p : Char → Bool) (s : List Char) :
    (s.dropWhile p).length ≤ s.length := by
  induction s with
  | nil => simp
  | cons c s ih =>
    rw [List.dropWhile_cons]
    split
    · exact Nat.le_succ_of_le ih
    · exact Nat.le_refl _

/-- The terms of a text: each number and each unit is as long as possible. -/
def terms? (s : List Char) : Option (List Term) :=
  match s with
  | [] => some []
  | c :: rest =>
    if isNumberChar c then
      let number := c :: rest.takeWhile isNumberChar
      let behind := rest.dropWhile isNumberChar
      match Number.ofText? number, TimeUnit.ofText? (behind.takeWhile (!isNumberChar ·)) with
      | some n, some u => (terms? (behind.dropWhile (!isNumberChar ·))).map ((n, u) :: ·)
      | _, _ => none
    else none
termination_by s.length
decreasing_by
  have h₁ := length_dropWhile_le (!isNumberChar ·) (rest.dropWhile isNumberChar)
  have h₂ := length_dropWhile_le isNumberChar rest
  simp only [List.length_cons]
  omega

/-- The sum of terms, from left to right. -/
def total (ts : List Term) : Float := ts.foldl (fun sum t => sum + t.seconds) 0.0

/-- The seconds that a text writes. -/
def seconds? (text : String) : Option Float :=
  let s := match text.toList with
    | '+' :: rest => rest
    | s => s
  if s = ['0'] then some 0.0
  else if s.isEmpty then none
  else (terms? s).map total

end NetworkRollout.Duration
