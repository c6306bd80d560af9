import NetworkRollout.Time.Calendar
import NetworkRollout.Text.Blank
import NetworkRollout.Number.Power

/-!
# Moments

A moment of universal time is a second since 1 January 1970 and a fraction in nanoseconds. The
fraction of a leap second, which only the last second of a minute can have, is a full second more.
Moments are written with the date, a `T`, the time and a `Z`, and with as many groups of three
digits behind the second as the fraction needs.

* `Moment`: moments within the years that dates reach.
* `Moment.text`: the written form.
* `Moment.ofText?`: reads a date and a time with any offset.
-/

namespace NetworkRollout

/-- The nanoseconds of a second. -/
def nanosPerSecond : Nat := 1000000000

/-- The last year that moments reach, and the first one before the year zero. -/
def Moment.lastYear : Nat := 262142

/-- Whether seconds and nanoseconds make a moment. -/
def Moment.isValid (seconds : Int) (nanos : Nat) : Bool :=
  (CivilDate.ofDays (seconds / 86400)).year.natAbs ≤ lastYear
    && (nanos < nanosPerSecond || (nanos < 2 * nanosPerSecond && seconds % 60 = 59))

/-- A moment of universal time. -/
structure Moment where
  seconds : Int
  nanos : Nat
  valid : Moment.isValid seconds nanos = true
  deriving DecidableEq, Repr

namespace Moment

/-- The moment of seconds and nanoseconds, if there is one. -/
def of? (seconds : Int) (nanos : Nat) : Option Moment :=
  if h : isValid seconds nanos then some ⟨seconds, nanos, h⟩ else none

/-- The start of 1 January 1970. -/
def epoch : Moment := ⟨0, 0, by decide⟩

instance : Inhabited Moment := ⟨epoch⟩

/-- The nanoseconds since the epoch. -/
def total (m : Moment) : Int := m.seconds * nanosPerSecond + m.nanos

/-- The moment some milliseconds later; past the last year, the moment itself. -/
def later (m : Moment) (milliseconds : Nat) : Moment :=
  let total := m.total + milliseconds * 1000000
  (of? (total / nanosPerSecond) (total % nanosPerSecond).toNat).getD m

/-! ## The written form -/

/-- A number with leading zeros up to a width. -/
def padded (width n : Nat) : List Char :=
  let digits := Nat.toDigits 10 n
  List.replicate (width - digits.length) '0' ++ digits

/-- A year: four digits, or a sign and at least four digits. -/
def yearText (year : Int) : List Char :=
  if 0 ≤ year ∧ year ≤ 9999 then padded 4 year.toNat
  else (if year < 0 then '-' else '+') :: padded 4 year.natAbs

/-- The fraction of a second in groups of three digits. -/
def fractionText (nanos : Nat) : List Char :=
  if nanos = 0 then []
  else if nanos % 1000000 = 0 then '.' :: padded 3 (nanos / 1000000)
  else if nanos % 1000 = 0 then '.' :: padded 6 (nanos / 1000)
  else '.' :: padded 9 nanos

def date (m : Moment) : CivilDate := .ofDays (m.seconds / 86400)

def timeText (secondOfDay second : Nat) : List Char :=
  padded 2 (secondOfDay / 3600) ++ ':' :: padded 2 (secondOfDay / 60 % 60) ++ ':' :: padded 2 second

def wholeText (m : Moment) : List Char :=
  let secondOfDay := (m.seconds % 86400).toNat
  let leap := m.nanos / nanosPerSecond
  yearText m.date.year ++ '-' :: padded 2 m.date.month.toNat ++ '-' :: padded 2 m.date.day.toNat
    ++ 'T' :: timeText secondOfDay (secondOfDay % 60 + leap)

def text (m : Moment) : String :=
  String.ofList (m.wholeText ++ fractionText (m.nanos % nanosPerSecond) ++ ['Z'])

/-- The written form of a moment without its fraction. -/
def secondsText (m : Moment) : String := String.ofList (m.wholeText ++ ['Z'])

/-! ## Reading -/

/-- A number of at most so many digits behind blanks, at least one. -/
def number? (width : Nat) (s : List Char) : Option (Nat × List Char) :=
  let s := Text.trimStart s
  let digits := (s.takeWhile Char.isDigit).take width
  if digits.isEmpty then none
  else some (Nat.ofDigitChars 10 digits 0, s.drop digits.length)

/-- All digits at the front as a number, at least one. -/
def digits? (s : List Char) : Option (Nat × List Char) :=
  let digits := s.takeWhile Char.isDigit
  if digits.isEmpty then none
  else some (Nat.ofDigitChars 10 digits 0, s.drop digits.length)

/-- A year: a sign and digits, or up to four digits. -/
def year? (s : List Char) : Option (Int × List Char) :=
  match Text.trimStart s with
  | '-' :: s => (digits? s).map fun (n, s) => (-n, s)
  | '+' :: s => (digits? s).map fun (n, s) => (n, s)
  | s => (number? 4 s).map fun (n, s) => (n, s)

def sign? (c : Char) (s : List Char) : Option (List Char) :=
  match Text.trimStart s with
  | d :: s => if d = c then some s else none
  | [] => none

/-- The fraction behind a point in nanoseconds. Digits beyond the ninth do not count. -/
def fraction? : List Char → Option (Nat × List Char)
  | '.' :: s =>
    let digits := s.takeWhile Char.isDigit
    let used := digits.take 9
    if digits.isEmpty then none
    else some (Nat.ofDigitChars 10 used 0 * tenTo (9 - used.length), s.drop digits.length)
  | s => some (0, s)

/-- An offset from universal time in seconds behind its sign: hours, then minutes that may be
missing. -/
def offset? : List Char → Option (Nat × List Char)
  | a :: b :: s =>
    if a.isDigit && b.isDigit then
      let hours := Nat.ofDigitChars 10 [a, b] 0
      match s.dropWhile fun c => c = ':' || Text.isBlank c with
      | [] => some (hours * 3600, [])
      | c :: d :: rest =>
        if c.isDigit && d.isDigit && c < '6' then
          some (hours * 3600 + Nat.ofDigitChars 10 [c, d] 0 * 60, rest)
        else none
      | _ => none
    else none
  | _ => none

/-- A zone: a letter, a name, or an offset with its sign, in seconds. -/
def zone? (s : List Char) : Option (Int × List Char) :=
  match s with
  | 'Z' :: rest => some (0, rest)
  | 'z' :: rest => some (0, rest)
  | '+' :: rest => (offset? rest).map fun (n, rest) => (n, rest)
  | '-' :: rest => (offset? rest).map fun (n, rest) => (-n, rest)
  | '\u2212' :: rest => (offset? rest).map fun (n, rest) => (-n, rest)
  | a :: b :: c :: rest =>
    if [a.toUpper, b.toUpper, c.toUpper] = ['U', 'T', 'C'] then some (0, rest) else none
  | _ => none

def date? (s : List Char) : Option (CivilDate × List Char) := do
  let (year, s) ← year? s
  let (month, s) ← number? 2 (← sign? '-' s)
  let (day, s) ← number? 2 (← sign? '-' s)
  let date : CivilDate := ⟨year, month, day⟩
  if date.isReal then some (date, s) else none

/-- A time of day: its second, whether that is a leap second, and its nanoseconds. -/
def time? (s : List Char) : Option ((Nat × Nat) × List Char) := do
  let (hour, s) ← number? 2 s
  let (minute, s) ← number? 2 (← sign? ':' s)
  let (second, s) ← number? 2 (← sign? ':' s)
  let (nanos, s) ← fraction? s
  if hour < 24 ∧ minute < 60 then
    let start := hour * 3600 + minute * 60
    if second < 60 then some ((start + second, nanos), s)
    else if second = 60 then some ((start + 59, nanos + nanosPerSecond), s)
    else none
  else none

def betweenDateAndTime? : List Char → Option (List Char)
  | c :: s => if c ∈ ['T', 't', ' '] then some s else none
  | [] => none

/-- Reads a moment: a date, a time and a zone, with blanks between their parts. -/
def read? (s : List Char) : Option Moment := do
  let (date, s) ← date? s
  let ((second, nanos), s) ← time? (← betweenDateAndTime? s)
  let (offset, s) ← zone? (Text.trimStart s)
  if (Text.trimStart s).isEmpty ∧ offset.natAbs < 86400
      ∧ date.year.natAbs ≤ lastYear then
    of? (date.days * 86400 + second - offset) nanos
  else none

def ofText? (s : String) : Option Moment := read? s.toList

end Moment

end NetworkRollout
