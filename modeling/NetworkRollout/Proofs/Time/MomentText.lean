import Mathlib.Algebra.Group.Nat.Defs
import Mathlib.Data.List.Basic
import NetworkRollout.Proofs.Text.Pieces
import NetworkRollout.Time.Moment

/-!
# Moments read back from their written form

The written form of a moment has its numbers in fixed widths between fixed marks, so that each part
is read as it was written: the date by its day, the time by its second, the leap second by the
second sixty, and the fraction by its groups of digits.

* `Moment.number?_padded`, `Moment.digits?_padded`: numbers with leading zeros.
* `Moment.date?_dateText`, `Moment.time?_timeText`: the date and the time.
* `Moment.ofText?_text`: the moment.
-/

namespace NetworkRollout

/-! ## The calendar -/

namespace CivilDate

theorem month_ofDays (n : Int) : 1 ≤ (ofDays n).month ∧ (ofDays n).month ≤ 12 := by
  have hera : 0 < daysInEra := by decide
  have h := dayOfYear_bounds (Int.emod_nonneg (n + epoch) (Int.ne_of_gt hera))
    (Int.emod_lt_of_pos (n + epoch) hera)
  simp only [ofDays]
  generalize (n + epoch) % daysInEra - daysBefore (yearOfEra ((n + epoch) % daysInEra)) = day at *
  split <;> dsimp only <;> omega

theorem day_ofDays (n : Int) : 1 ≤ (ofDays n).day ∧ (ofDays n).day ≤ 31 := by
  have hera : 0 < daysInEra := by decide
  have h := dayOfYear_bounds (Int.emod_nonneg (n + epoch) (Int.ne_of_gt hera))
    (Int.emod_lt_of_pos (n + epoch) hera)
  simp only [ofDays]
  generalize (n + epoch) % daysInEra - daysBefore (yearOfEra ((n + epoch) % daysInEra)) = day at *
  split <;> dsimp only <;> omega

theorem isReal_ofDays (n : Int) : (ofDays n).isReal = true := by
  rw [isReal, days_ofDays, decide_eq_true_eq]

end CivilDate

namespace Moment

open Text

/-! ## Numbers -/

theorem isBlank_of_isDigit {c : Char} (h : c.isDigit = true) : isBlank c = false := by
  refine isBlank_of_isAlphanum ?_
  rw [Char.isAlphanum, h, Bool.or_true]

theorem isDigit_of_mem_padded {width n : Nat} {c : Char} (h : c ∈ padded width n) :
    c.isDigit = true := by
  unfold padded at h
  rcases List.mem_append.mp h with hzero | hdigit
  · rw [List.eq_of_mem_replicate hzero]
    rfl
  · exact Nat.isDigit_of_mem_toDigits (by decide) (by decide) hdigit

theorem padded_ne_nil (width n : Nat) : padded width n ≠ [] := by
  unfold padded
  exact List.append_ne_nil_of_right_ne_nil _ Nat.toDigits_ne_nil

theorem length_padded {width n : Nat} (hwidth : 0 < width) (h : n < 10 ^ width) :
    (padded width n).length = width := by
  have hle := (Nat.length_toDigits_le_iff (b := 10) (n := n) (k := width) (by decide) hwidth).mpr h
  simp only [padded, List.length_append, List.length_replicate]
  omega

/-- Leading zeros do not count. -/
theorem ofDigitChars_padded (width n : Nat) : Nat.ofDigitChars 10 (padded width n) 0 = n := by
  unfold padded
  dsimp only
  generalize width - (Nat.toDigits 10 n).length = zeros
  induction zeros with
  | zero => exact Nat.ofDigitChars_ten_toDigits
  | succ zeros ih =>
    rw [List.replicate_succ, List.cons_append, Nat.ofDigitChars_cons]
    exact ih

theorem isDigit_of_padded_eq_cons {width n : Nat} {rest : List Char} {c : Char} {s : List Char}
    (h : padded width n ++ rest = c :: s) : c.isDigit = true := by
  cases hpadded : padded width n with
  | nil => exact absurd hpadded (padded_ne_nil width n)
  | cons d ds =>
    rw [hpadded] at h
    injection h with hhead _
    exact hhead ▸ isDigit_of_mem_padded (hpadded ▸ List.mem_cons_self)

theorem trimStart_padded (width n : Nat) (rest : List Char) :
    trimStart (padded width n ++ rest) = padded width n ++ rest := by
  cases hpadded : padded width n with
  | nil => exact absurd hpadded (padded_ne_nil width n)
  | cons c cs =>
    have hdigit : c.isDigit = true := isDigit_of_mem_padded (hpadded ▸ List.mem_cons_self)
    exact trimStart_cons (cs ++ rest) (isBlank_of_isDigit hdigit)

theorem takeWhile_padded (width n : Nat) (rest : List Char) :
    (padded width n ++ rest).takeWhile Char.isDigit =
      padded width n ++ rest.takeWhile Char.isDigit :=
  List.takeWhile_append_of_pos fun _ hc => isDigit_of_mem_padded hc

/-- A number in its width is read, whatever follows it. -/
theorem number?_padded {width n : Nat} (hwidth : 0 < width) (h : n < 10 ^ width)
    (rest : List Char) : number? width (padded width n ++ rest) = some (n, rest) := by
  have htake : ((padded width n ++ rest).takeWhile Char.isDigit).take width = padded width n := by
    rw [takeWhile_padded, List.take_append_of_le_length (Nat.le_of_eq (length_padded hwidth h).symm),
      List.take_of_length_le (Nat.le_of_eq (length_padded hwidth h))]
  have hempty : (padded width n).isEmpty = false := by
    rw [List.isEmpty_eq_false_iff]
    exact padded_ne_nil width n
  unfold number?
  rw [trimStart_padded]
  dsimp only
  rw [htake, hempty, if_neg Bool.false_ne_true, ofDigitChars_padded, List.drop_left]

/-- Digits are read up to something else. -/
theorem digits?_padded (width n : Nat) {rest : List Char}
    (hrest : rest.takeWhile Char.isDigit = []) :
    digits? (padded width n ++ rest) = some (n, rest) := by
  have hempty : (padded width n).isEmpty = false := by
    rw [List.isEmpty_eq_false_iff]
    exact padded_ne_nil width n
  unfold digits?
  rw [takeWhile_padded, hrest, List.append_nil]
  dsimp only
  rw [hempty, if_neg Bool.false_ne_true, ofDigitChars_padded, List.drop_left]

/-! ## Dates -/

theorem sign?_cons {c : Char} (h : isBlank c = false) (rest : List Char) :
    sign? c (c :: rest) = some rest := by
  unfold sign?
  rw [trimStart_cons rest h]
  simp

theorem year?_yearText (year : Int) {rest : List Char}
    (hrest : rest.takeWhile Char.isDigit = []) :
    year? (yearText year ++ rest) = some (year, rest) := by
  unfold yearText
  split
  case isTrue hyear =>
    have hsmall : year.toNat < 10 ^ 4 := by omega
    unfold year?
    rw [trimStart_padded]
    split
    case h_1 heq => exact absurd (isDigit_of_padded_eq_cons heq) (by decide)
    case h_2 heq => exact absurd (isDigit_of_padded_eq_cons heq) (by decide)
    case h_3 =>
      have habs : (year.toNat : Int) = year := Int.toNat_of_nonneg hyear.1
      rw [number?_padded (by decide) hsmall, Option.map_some]
      dsimp only
      rw [habs]
  case isFalse hyear =>
    by_cases hneg : year < 0
    · have habs : -(year.natAbs : Int) = year := by omega
      rw [if_pos hneg, List.cons_append, year?, trimStart_cons _ (by decide)]
      change (digits? (padded 4 year.natAbs ++ rest)).map (fun p => (-(p.1 : Int), p.2)) = _
      rw [digits?_padded 4 _ hrest, Option.map_some, habs]
    · have habs : (year.natAbs : Int) = year := by omega
      rw [if_neg hneg, List.cons_append, year?, trimStart_cons _ (by decide)]
      change (digits? (padded 4 year.natAbs ++ rest)).map (fun p => ((p.1 : Int), p.2)) = _
      rw [digits?_padded 4 _ hrest, Option.map_some, habs]

/-- The text of a date. -/
def dateText (date : CivilDate) : List Char :=
  yearText date.year ++ '-' :: (padded 2 date.month.toNat ++ '-' :: padded 2 date.day.toNat)

theorem date?_dateText (n : Int) (rest : List Char) :
    date? (dateText (.ofDays n) ++ rest) = some (.ofDays n, rest) := by
  obtain ⟨hmonth, hmonth'⟩ := CivilDate.month_ofDays n
  obtain ⟨hday, hday'⟩ := CivilDate.day_ofDays n
  have hreal := CivilDate.isReal_ofDays n
  generalize CivilDate.ofDays n = date at *
  have hmonthWidth : date.month.toNat < 10 ^ 2 := by omega
  have hdayWidth : date.day.toNat < 10 ^ 2 := by omega
  unfold dateText date?
  rw [List.append_assoc, year?_yearText date.year (by rfl)]
  simp only [Option.bind_eq_bind, Option.bind_some, List.cons_append, List.append_assoc,
    sign?_cons (show isBlank '-' = false by decide), number?_padded (by decide) hmonthWidth,
    number?_padded (by decide) hdayWidth, Int.toNat_of_nonneg (show 0 ≤ date.month by omega),
    Int.toNat_of_nonneg (show 0 ≤ date.day by omega), hreal, if_true]

/-! ## Times -/

theorem fraction?_of_padded {width n : Nat} (hwidth : 0 < width) (hle : width ≤ 9)
    (h : n < 10 ^ width) :
    fraction? ('.' :: padded width n ++ ['Z']) = some (n * tenTo (9 - width), ['Z']) := by
  have hlength := length_padded hwidth h
  have hempty : (padded width n).isEmpty = false := by
    rw [List.isEmpty_eq_false_iff]
    exact padded_ne_nil width n
  have hdigits : (padded width n ++ ['Z']).takeWhile Char.isDigit = padded width n := by
    rw [takeWhile_padded]
    exact List.append_nil _
  rw [List.cons_append, fraction?, hdigits, hempty, if_neg Bool.false_ne_true,
    List.take_of_length_le (by omega), List.drop_left, hlength, ofDigitChars_padded]

/-- The groups of three digits that the fraction needs give the whole fraction. -/
theorem fraction?_fractionText {nanos : Nat} (h : nanos < nanosPerSecond) :
    fraction? (fractionText nanos ++ ['Z']) = some (nanos, ['Z']) := by
  unfold nanosPerSecond at h
  unfold fractionText
  split
  case isTrue hzero =>
    rw [hzero]
    rfl
  split
  case isTrue hmillis =>
    rw [fraction?_of_padded (by decide) (by decide) (by omega)]
    have hvalue : nanos / 1000000 * tenTo (9 - 3) = nanos := by
      change nanos / 1000000 * 1000000 = nanos
      omega
    rw [hvalue]
  split
  case isTrue hmicros =>
    rw [fraction?_of_padded (by decide) (by decide) (by omega)]
    have hvalue : nanos / 1000 * tenTo (9 - 6) = nanos := by
      change nanos / 1000 * 1000 = nanos
      omega
    rw [hvalue]
  case isFalse =>
    rw [fraction?_of_padded (by decide) (by decide) (by omega)]
    have hvalue : nanos * tenTo (9 - 9) = nanos := Nat.mul_one nanos
    rw [hvalue]

/-- A time of day is read from its text, a leap second as the second sixty. -/
theorem time?_timeText {secondOfDay nanos leap : Nat} (hday : secondOfDay < 86400)
    (hnanos : nanos < nanosPerSecond)
    (hleap : leap = 0 ∨ leap = 1 ∧ secondOfDay % 60 = 59) :
    time? (timeText secondOfDay (secondOfDay % 60 + leap) ++ (fractionText nanos ++ ['Z'])) =
      some ((secondOfDay, nanos + leap * nanosPerSecond), ['Z']) := by
  have hhour : secondOfDay / 3600 < 10 ^ 2 := by omega
  have hminute : secondOfDay / 60 % 60 < 10 ^ 2 := by omega
  have hsecond : secondOfDay % 60 + leap < 10 ^ 2 := by omega
  have hrange : secondOfDay / 3600 < 24 ∧ secondOfDay / 60 % 60 < 60 := by omega
  unfold timeText time?
  simp only [List.append_assoc, List.cons_append, number?_padded (by decide) hhour,
    Option.bind_eq_bind, Option.bind_some, sign?_cons (show isBlank ':' = false by decide),
    number?_padded (by decide) hminute, number?_padded (by decide) hsecond,
    fraction?_fractionText hnanos, hrange, and_self, if_true]
  rcases hleap with rfl | ⟨rfl, hlast⟩
  · have hstart : secondOfDay / 3600 * 3600 + secondOfDay / 60 % 60 * 60 +
        (secondOfDay % 60 + 0) = secondOfDay := by omega
    rw [if_pos (by omega), hstart, Nat.zero_mul, Nat.add_zero]
  · have hstart : secondOfDay / 3600 * 3600 + secondOfDay / 60 % 60 * 60 + 59 = secondOfDay := by
      omega
    rw [if_neg (by omega), if_pos (by omega), hstart, Nat.one_mul]

/-! ## Moments -/

theorem wholeText_eq (m : Moment) :
    m.wholeText = dateText m.date ++ 'T' :: timeText (m.seconds % 86400).toNat
      ((m.seconds % 86400).toNat % 60 + m.nanos / nanosPerSecond) := by
  simp [wholeText, dateText]

/-- Every moment is read from its written form. -/
theorem ofText?_text (m : Moment) : ofText? m.text = some m := by
  have hvalid := m.valid
  simp only [isValid, Bool.and_eq_true, Bool.or_eq_true, decide_eq_true_eq] at hvalid
  obtain ⟨hyear, hfraction⟩ := hvalid
  have hday : (m.seconds % 86400).toNat < 86400 := by omega
  have hleap : m.nanos / nanosPerSecond = 0 ∨
      m.nanos / nanosPerSecond = 1 ∧ (m.seconds % 86400).toNat % 60 = 59 := by
    unfold nanosPerSecond at hfraction ⊢
    omega
  have hnanos : m.nanos % nanosPerSecond + m.nanos / nanosPerSecond * nanosPerSecond = m.nanos := by
    unfold nanosPerSecond
    omega
  have hseconds : (CivilDate.ofDays (m.seconds / 86400)).days * 86400 +
      ((m.seconds % 86400).toNat : Int) - 0 = m.seconds := by
    rw [CivilDate.days_ofDays]
    omega
  unfold ofText? text
  rw [String.toList_ofList, wholeText_eq, date, List.append_assoc, List.append_assoc, read?,
    date?_dateText]
  simp only [Option.bind_eq_bind, Option.bind_some, List.cons_append]
  have hbetween : ∀ rest, betweenDateAndTime? ('T' :: rest) = some rest := fun _ => rfl
  rw [hbetween, Option.bind_some, time?_timeText hday (Nat.mod_lt _ (by decide)) hleap]
  have hzone : zone? (trimStart ['Z']) = some (0, []) := rfl
  have haccepted : (trimStart []).isEmpty = true ∧ (0 : Int).natAbs < 86400 ∧
      (CivilDate.ofDays (m.seconds / 86400)).year.natAbs ≤ lastYear := ⟨rfl, by decide, hyear⟩
  simp only [Option.bind_some, hzone]
  rw [if_pos haccepted, hnanos, hseconds, of?, dif_pos m.valid]


end Moment

end NetworkRollout
