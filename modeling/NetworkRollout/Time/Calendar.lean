/-!
# The calendar

Days are counted from 1 January 1970 in the Gregorian calendar, which repeats every 400 years. A
year is counted from March here, so that a leap day is its last day; 400 years are split into
centuries, spans of four years and years.

* `CivilDate.ofDays`: the date of a day.
* `CivilDate.days`: the day of a date.
* `CivilDate.days_ofDays`: the day of the date of a day is that day.
-/

namespace NetworkRollout

/-- A date of the Gregorian calendar. -/
structure CivilDate where
  year : Int
  month : Int
  day : Int
  deriving DecidableEq, Repr

namespace CivilDate

/-- The days in 400 years. -/
def daysInEra : Int := 146097

/-- The days from 1 March of the year zero to 1 January 1970. -/
def epoch : Int := 719468

/-- The days before a year within 400 years. -/
def daysBefore (year : Int) : Int := 365 * year + year / 4 - year / 100

/-- The year within 400 years that a day falls in. The last century, and the last year of four,
have a day more. -/
def yearOfEra (day : Int) : Int :=
  let century := min (day / 36524) 3
  let dayOfCentury := day - 36524 * century
  let span := dayOfCentury / 1461
  let dayOfSpan := dayOfCentury - 1461 * span
  100 * century + 4 * span + min (dayOfSpan / 365) 3

def ofDays (days : Int) : CivilDate :=
  let z := days + epoch
  let era := z / daysInEra
  let dayOfEra := z % daysInEra
  let year := yearOfEra dayOfEra
  let dayOfYear := dayOfEra - daysBefore year
  let month := (5 * dayOfYear + 2) / 153
  let day := dayOfYear - (153 * month + 2) / 5 + 1
  if month < 10 then ⟨year + 400 * era, month + 3, day⟩
  else ⟨year + 400 * era + 1, month - 9, day⟩

def days (date : CivilDate) : Int :=
  let year := if date.month ≤ 2 then date.year - 1 else date.year
  let month := if date.month ≤ 2 then date.month + 9 else date.month - 3
  let dayOfYear := (153 * month + 2) / 5 + date.day - 1
  daysInEra * (year / 400) + daysBefore (year % 400) + dayOfYear - epoch

def isReal (date : CivilDate) : Bool := ofDays date.days = date

theorem yearOfEra_split {day : Int} (h0 : 0 ≤ day) (h1 : day < daysInEra) :
    ∃ century span year rest : Int, yearOfEra day = 100 * century + 4 * span + year
      ∧ day = 36524 * century + 1461 * span + 365 * year + rest
      ∧ 0 ≤ century ∧ century ≤ 3 ∧ 0 ≤ span ∧ span ≤ 24 ∧ 0 ≤ year ∧ year ≤ 3
      ∧ 0 ≤ rest ∧ rest ≤ 365 := by
  unfold daysInEra at h1
  have hc : 0 ≤ min (day / 36524) 3 ∧ min (day / 36524) 3 ≤ 3
      ∧ 36524 * min (day / 36524) 3 ≤ day ∧ day - 36524 * min (day / 36524) 3 ≤ 36524 := by omega
  simp only [yearOfEra]
  generalize min (day / 36524) 3 = century at hc ⊢
  generalize hs : (day - 36524 * century) / 1461 = span
  generalize hd : day - 36524 * century - 1461 * span = dayOfSpan
  refine ⟨century, span, min (dayOfSpan / 365) 3, dayOfSpan - 365 * min (dayOfSpan / 365) 3, rfl, ?_⟩
  omega

theorem yearOfEra_bounds {day : Int} (h0 : 0 ≤ day) (h1 : day < daysInEra) :
    0 ≤ yearOfEra day ∧ yearOfEra day < 400 := by
  obtain ⟨c, s, y, r, hy, h⟩ := yearOfEra_split h0 h1
  omega

theorem dayOfYear_bounds {day : Int} (h0 : 0 ≤ day) (h1 : day < daysInEra) :
    0 ≤ day - daysBefore (yearOfEra day) ∧ day - daysBefore (yearOfEra day) ≤ 365 := by
  obtain ⟨c, s, y, r, hy, h⟩ := yearOfEra_split h0 h1
  have h4 : (100 * c + 4 * s + y) / 4 = 25 * c + s := by omega
  have h100 : (100 * c + 4 * s + y) / 100 = c := by omega
  unfold daysBefore
  rw [hy, h4, h100]
  omega

/-- The day of the date of a day is that day. -/
theorem days_ofDays (n : Int) : (ofDays n).days = n := by
  have hera : 0 < daysInEra := by decide
  have h0 := Int.emod_nonneg (n + epoch) (Int.ne_of_gt hera)
  have h1 := Int.emod_lt_of_pos (n + epoch) hera
  have hy := yearOfEra_bounds h0 h1
  have hd := dayOfYear_bounds h0 h1
  have hz := Int.mul_ediv_add_emod (n + epoch) daysInEra
  simp only [ofDays]
  generalize (n + epoch) / daysInEra = era at *
  generalize (n + epoch) % daysInEra = dayOfEra at *
  generalize hyear : yearOfEra dayOfEra = year at *
  generalize hb : daysBefore year = before at *
  have hyear400 : (year + 400 * era) % 400 = year := by omega
  have hera400 : (year + 400 * era) / 400 = era := by omega
  split
  · have h2 : ¬ ((5 * (dayOfEra - before) + 2) / 153 + 3 ≤ 2) := by omega
    simp only [days, h2, if_false, hyear400, hera400, hb]
    omega
  · have h2 : (5 * (dayOfEra - before) + 2) / 153 - 9 ≤ 2 := by omega
    have hy1 : year + 400 * era + 1 - 1 = year + 400 * era := by omega
    simp only [days, h2, if_true, hy1, hyear400, hera400, hb]
    omega

end CivilDate

end NetworkRollout
