import Mathlib.Data.List.Basic
import Mathlib.Data.List.TakeWhile
import Mathlib.Tactic.Ring
import Mathlib.Tactic.SplitIfs
import NetworkRollout.Flow.Duration
import NetworkRollout.Proofs.Text.Pieces
import NetworkRollout.Text.Unsigned

/-!
# The grammar of durations

A duration is `0` or a row of numbers with units, and one plus sign may stand in front. No character
of a number stands in a unit, so a text can be taken apart in one way at most. A text that is a
duration has the sum of its pairs as its value, added up from left to right, and any other text has
none. A pair is worth the product of two doubles: the one nearest to its number, and the one nearest
to the length of its unit.

* `Duration.IsNumber`, `Duration.TimeUnit.spellings`: what numbers and units look like.
* `Duration.nearest`, `Duration.TimeUnit.nearest`: the doubles that they stand for.
* `Duration.Pair`, `Duration.Written`: pairs and durations as they are written.
* `Duration.terms?_eq_some_iff`: the terms that are read are those of the pairs.
* `Duration.Written.text_injective`: no text is written in two ways.
* `Duration.seconds?_grammar`: the texts that have a value, and the value.
-/

namespace NetworkRollout.Duration

/-! ## Numbers -/

/-- Digits of ASCII with at most one point among them, and at least one digit. -/
structure IsNumber (s : List Char) : Prop where
  chars : ∀ c ∈ s, c.isDigit = true ∨ c = '.'
  onePoint : s.count '.' ≤ 1
  anyDigit : ∃ c ∈ s, c.isDigit = true

theorem IsNumber.ne_nil {s : List Char} (h : IsNumber s) : s ≠ [] := by
  obtain ⟨d, hd, -⟩ := h.anyDigit
  exact List.ne_nil_of_mem hd

theorem not_isDigit_point : ¬ '.'.isDigit = true := by decide

theorem isNumber_iff_of_not_mem {s : List Char} (h : '.' ∉ s) :
    IsNumber s ↔ s ≠ [] ∧ ∀ c ∈ s, c.isDigit = true := by
  constructor
  · rintro ⟨hchars, -, d, hd, -⟩
    exact ⟨List.ne_nil_of_mem hd, fun c hc =>
      (hchars c hc).resolve_right fun hpoint => h (hpoint ▸ hc)⟩
  · rintro ⟨hne, hdigits⟩
    obtain ⟨d, hd⟩ := List.exists_mem_of_ne_nil s hne
    refine ⟨fun c hc => Or.inl (hdigits c hc), ?_, d, hd, hdigits d hd⟩
    rw [List.count_eq_zero_of_not_mem h]
    exact Nat.zero_le 1

/-- With a point there is no other one, and the digits may be on either side. -/
theorem isNumber_append_point {whole fraction : List Char} :
    IsNumber (whole ++ '.' :: fraction) ↔
      whole ++ fraction ≠ [] ∧ ∀ c ∈ whole ++ fraction, c.isDigit = true := by
  have hmem : ∀ c, c ∈ whole ++ '.' :: fraction ↔ c = '.' ∨ c ∈ whole ++ fraction := by
    intro c
    rw [List.mem_append, List.mem_cons, List.mem_append, or_left_comm]
  have hcount : (whole ++ '.' :: fraction).count '.' = (whole ++ fraction).count '.' + 1 := by
    rw [List.count_append, List.count_append, List.count_cons_self, Nat.add_assoc]
  constructor
  · rintro ⟨hchars, hone, d, hd, hdigit⟩
    have hnone : '.' ∉ whole ++ fraction := List.count_eq_zero.mp (by omega)
    refine ⟨?_, fun c hc => ?_⟩
    · rcases (hmem d).mp hd with rfl | hd
      · exact absurd hdigit not_isDigit_point
      · exact List.ne_nil_of_mem hd
    · exact (hchars c ((hmem c).mpr (Or.inr hc))).resolve_right fun hpoint => hnone (hpoint ▸ hc)
  · rintro ⟨hne, hdigits⟩
    obtain ⟨d, hd⟩ := List.exists_mem_of_ne_nil _ hne
    have hnone : '.' ∉ whole ++ fraction := fun hpoint => not_isDigit_point (hdigits _ hpoint)
    refine ⟨fun c hc => ?_, ?_, d, (hmem d).mpr (Or.inr hd), hdigits d hd⟩
    · exact ((hmem c).mp hc).symm.imp_left (hdigits c)
    · rw [hcount, List.count_eq_zero_of_not_mem hnone]

namespace Number

/-- What stands in front of the point, and what stands behind it. -/
def parts (s : List Char) : Number := ⟨(Text.cutAt '.' s).1, (Text.cutAt '.' s).2.getD []⟩

def digits (n : Number) : List Char := n.whole ++ n.fraction

theorem ofText?_eq (s : List Char) :
    ofText? s = if (parts s).digits.isEmpty || !(parts s).digits.all Char.isDigit then none
      else some (parts s) := by
  unfold ofText? parts digits Text.cutAt
  cases s.dropWhile (· ≠ '.') <;> rfl

/-- A number is made of digits alone when its point is left out. -/
theorem digits_parts_iff {s : List Char} : IsNumber s ↔
    (parts s).digits ≠ [] ∧ ∀ c ∈ (parts s).digits, c.isDigit = true := by
  obtain ⟨hwhole, hs⟩ := Text.cutAt_eq_iff.mp (Prod.eta (Text.cutAt '.' s)).symm
  unfold parts digits
  revert hwhole hs
  generalize (Text.cutAt '.' s).1 = whole
  generalize (Text.cutAt '.' s).2 = rest
  rintro hwhole rfl
  cases rest with
  | none =>
    rw [Text.rejoin_none, Option.getD_none, List.append_nil]
    exact isNumber_iff_of_not_mem hwhole
  | some fraction => exact isNumber_append_point

theorem ofText?_eq_some_iff {s : List Char} {n : Number} :
    ofText? s = some n ↔ IsNumber s ∧ parts s = n := by
  rw [ofText?_eq, Option.ite_none_left_eq_some, digits_parts_iff, Option.some_inj]
  simp

end Number

/-- The whole number that a row of digits writes, each digit by its place. -/
def decimal : List Char → Nat
  | [] => 0
  | c :: rest => (c.toNat - '0'.toNat) * 10 ^ rest.length + decimal rest

/-- How many characters stand behind the point. -/
def places (s : List Char) : Nat := s.length - (s.idxOf '.' + 1)

/-- The double nearest to a number: its digits without the point, moved by the places behind it. -/
def nearest (s : List Char) : Binary64 :=
  .ofDecimal false (decimal (s.filter (· ≠ '.'))) (-(places s : Int))

theorem ofDigitChars_eq (s : List Char) (n : Nat) :
    Nat.ofDigitChars 10 s n = n * 10 ^ s.length + decimal s := by
  induction s generalizing n with
  | nil => exact (Nat.mul_one n).symm
  | cons c s ih =>
    rw [Nat.ofDigitChars_cons, ih, decimal, List.length_cons, Nat.pow_succ]
    ring

theorem filter_of_not_mem {s : List Char} (h : '.' ∉ s) : s.filter (· ≠ '.') = s :=
  List.filter_eq_self.mpr fun _ hc => decide_eq_true fun hpoint => h (hpoint ▸ hc)

theorem places_of_not_mem {s : List Char} (h : '.' ∉ s) : places s = 0 := by
  unfold places
  rw [List.idxOf_eq_length h]
  omega

theorem places_append {whole : List Char} (h : '.' ∉ whole) (fraction : List Char) :
    places (whole ++ '.' :: fraction) = fraction.length := by
  unfold places
  rw [List.idxOf_append_of_notMem h, List.idxOf_cons_self, List.length_append, List.length_cons]
  omega

/-- What is read of a number is the double nearest to it. -/
theorem value_parts {s : List Char} (h : IsNumber s) :
    (Number.parts s).value = (nearest s).toFloat := by
  obtain ⟨hwhole, hs⟩ := Text.cutAt_eq_iff.mp (Prod.eta (Text.cutAt '.' s)).symm
  unfold Number.parts Number.value nearest
  revert hwhole hs h
  generalize (Text.cutAt '.' s).1 = whole
  generalize (Text.cutAt '.' s).2 = rest
  rintro h hwhole rfl
  rw [ofDigitChars_eq, Nat.zero_mul, Nat.zero_add]
  cases rest with
  | none =>
    rw [Text.rejoin_none, Option.getD_none, List.append_nil, filter_of_not_mem hwhole,
      places_of_not_mem hwhole]
    rfl
  | some fraction =>
    obtain ⟨-, hdigits⟩ := isNumber_append_point.mp h
    have hfraction : '.' ∉ fraction := fun hpoint =>
      not_isDigit_point (hdigits '.' (List.mem_append_right _ hpoint))
    change _ = (Binary64.ofDecimal false (decimal ((whole ++ '.' :: fraction).filter (· ≠ '.')))
      (-(places (whole ++ '.' :: fraction) : Int))).toFloat
    rw [List.filter_append, List.filter_cons_of_neg (by decide), filter_of_not_mem hwhole,
      filter_of_not_mem hfraction, places_append hwhole]
    rfl

/-! ## Units -/

namespace TimeUnit

/-- The ways to write a unit. There are two micro signs. -/
def spellings : TimeUnit → List (List Char)
  | nanosecond => [['n', 's']]
  | microsecond => [['u', 's'], ['\u00b5', 's'], ['\u03bc', 's']]
  | millisecond => [['m', 's']]
  | second => [['s']]
  | minute => [['m']]
  | hour => [['h']]

theorem ofText?_eq_some_iff {s : List Char} {u : TimeUnit} :
    ofText? s = some u ↔ s ∈ u.spellings := by
  constructor
  · intro h
    unfold ofText? at h
    split_ifs at h <;> cases h <;> simp [spellings, *]
  · revert s
    cases u <;> decide

/-- The double nearest to the length of a unit in seconds, by its bits. -/
def nearest : TimeUnit → Binary64
  | nanosecond => ⟨0x3E112E0BE826D695⟩
  | microsecond => ⟨0x3EB0C6F7A0B5ED8D⟩
  | millisecond => ⟨0x3F50624DD2F1A9FC⟩
  | second => ⟨0x3FF0000000000000⟩
  | minute => ⟨0x404E000000000000⟩
  | hour => ⟨0x40AC200000000000⟩

theorem seconds_eq (u : TimeUnit) : u.seconds = u.nearest.toFloat := by
  cases u <;> exact congrArg Binary64.toFloat (by decide +kernel)

/-- A spelling is not empty, and no digit and no point is in it. -/
theorem spelled {s : List Char} {u : TimeUnit} (h : s ∈ u.spellings) :
    s ≠ [] ∧ ∀ c ∈ s, isNumberChar c = false := by
  have hall : ∀ s ∈ u.spellings, s ≠ [] ∧ s.any isNumberChar = false := by
    cases u <;> decide
  obtain ⟨hne, hnone⟩ := hall s h
  exact ⟨hne, fun c hc => Bool.eq_false_iff.mpr (List.any_eq_false.mp hnone c hc)⟩

end TimeUnit

/-! ## Pairs -/

/-- A number with a unit, as they are written. -/
@[ext]
structure Pair where
  number : List Char
  unit : TimeUnit
  spelling : List Char
  isNumber : IsNumber number
  spelled : spelling ∈ unit.spellings

namespace Pair

def text (p : Pair) : List Char := p.number ++ p.spelling

/-- What is read of a pair. -/
def term (p : Pair) : Term := (Number.parts p.number, p.unit)

/-- The seconds of a pair: the number times the length of the unit. -/
def seconds (p : Pair) : Float := (Duration.nearest p.number).toFloat * p.unit.nearest.toFloat

theorem seconds_term (p : Pair) : p.term.seconds = p.seconds := by
  unfold Term.seconds term seconds
  dsimp only
  rw [value_parts p.isNumber, TimeUnit.seconds_eq]

theorem isNumberChar_number (p : Pair) : ∀ c ∈ p.number, isNumberChar c = true := by
  intro c hc
  rw [isNumberChar, Bool.or_eq_true, decide_eq_true_iff]
  exact p.isNumber.chars c hc

/-- A pair begins with a character of a number. -/
theorem exists_number_eq_cons (p : Pair) :
    ∃ c rest, p.number = c :: rest ∧ isNumberChar c = true := by
  cases hnumber : p.number with
  | nil => exact absurd hnumber p.isNumber.ne_nil
  | cons c rest => exact ⟨c, rest, rfl, p.isNumberChar_number c (hnumber ▸ List.mem_cons_self)⟩

variable {p q : Pair} {ps qs : List Pair}

/-- Where pairs begin, or where they end, no unit goes on. -/
theorem head?_flatMap (ps : List Pair) (c : Char) (h : (ps.flatMap text).head? = some c) :
    (!isNumberChar c) = false := by
  cases ps with
  | nil => cases h
  | cons p ps =>
    obtain ⟨d, rest, hnumber, hd⟩ := p.exists_number_eq_cons
    rw [List.flatMap_cons, text, hnumber] at h
    cases h
    rw [hd]
    rfl

theorem head?_spelling (p : Pair) (s : List Char) (c : Char)
    (h : (p.spelling ++ s).head? = some c) : isNumberChar c = false := by
  obtain ⟨hne, hchars⟩ := TimeUnit.spelled p.spelled
  cases hspelling : p.spelling with
  | nil => exact absurd hspelling hne
  | cons d rest =>
    rw [hspelling] at h
    cases h
    exact hchars _ (hspelling ▸ List.mem_cons_self)

/-- The runs that a row of pairs begins with are those of its first pair. -/
theorem runs_flatMap (p : Pair) (ps : List Pair) :
    let s := (p :: ps).flatMap text
    s.takeWhile isNumberChar = p.number ∧
      (s.dropWhile isNumberChar).takeWhile (!isNumberChar ·) = p.spelling ∧
      (s.dropWhile isNumberChar).dropWhile (!isNumberChar ·) = ps.flatMap text := by
  intro s
  have hs : s = p.number ++ (p.spelling ++ ps.flatMap text) := by
    rw [← List.append_assoc]
    rfl
  have hunit : ∀ c ∈ p.spelling, (!isNumberChar c) = true := by
    intro c hc
    rw [(TimeUnit.spelled p.spelled).2 c hc]
    rfl
  rw [hs, Text.takeWhile_append_of_ends p.isNumberChar_number (p.head?_spelling _),
    Text.dropWhile_append_of_ends p.isNumberChar_number (p.head?_spelling _),
    Text.takeWhile_append_of_ends hunit (head?_flatMap ps),
    Text.dropWhile_append_of_ends hunit (head?_flatMap ps)]
  exact ⟨rfl, rfl, rfl⟩

/-- No spelling is one of two units. -/
theorem eq_of_parts (hnumber : p.number = q.number) (hspelling : p.spelling = q.spelling) :
    p = q := by
  have hp := TimeUnit.ofText?_eq_some_iff.mpr p.spelled
  have hq := TimeUnit.ofText?_eq_some_iff.mpr q.spelled
  rw [hspelling, hq] at hp
  exact Pair.ext hnumber (Option.some.inj hp).symm hspelling

/-- Pairs are told by their text. -/
theorem flatMap_text_inj (h : ps.flatMap text = qs.flatMap text) : ps = qs := by
  induction ps generalizing qs with
  | nil =>
    cases qs with
    | nil => rfl
    | cons q qs =>
      obtain ⟨c, rest, hnumber, -⟩ := q.exists_number_eq_cons
      rw [List.flatMap_cons, text, hnumber] at h
      cases h
  | cons p ps ih =>
    cases qs with
    | nil =>
      obtain ⟨c, rest, hnumber, -⟩ := p.exists_number_eq_cons
      rw [List.flatMap_cons, text, hnumber] at h
      cases h
    | cons q qs =>
      obtain ⟨hnumber, hspelling, hrest⟩ := runs_flatMap p ps
      obtain ⟨hnumber', hspelling', hrest'⟩ := runs_flatMap q qs
      rw [h] at hnumber hspelling hrest
      rw [eq_of_parts (hnumber.symm.trans hnumber') (hspelling.symm.trans hspelling'),
        ih (hrest.symm.trans hrest')]

end Pair

/-! ## Reading -/

variable {s : List Char} {ts : List Term}

/-- A text that begins with a number is read by its first two runs, and then by what follows. -/
theorem terms?_eq {c : Char} {rest : List Char} (hs : s = c :: rest) (hc : isNumberChar c = true) :
    terms? s =
      match Number.ofText? (s.takeWhile isNumberChar),
        TimeUnit.ofText? ((s.dropWhile isNumberChar).takeWhile (!isNumberChar ·)) with
      | some n, some u =>
        (terms? ((s.dropWhile isNumberChar).dropWhile (!isNumberChar ·))).map ((n, u) :: ·)
      | _, _ => none := by
  rw [hs, List.takeWhile_cons_of_pos hc, List.dropWhile_cons_of_pos hc, terms?]
  exact if_pos hc

theorem terms?_flatMap (ps : List Pair) :
    terms? (ps.flatMap Pair.text) = some (ps.map Pair.term) := by
  induction ps with
  | nil =>
    rw [List.flatMap_nil, terms?]
    rfl
  | cons p ps ih =>
    obtain ⟨c, rest, hnumber, hc⟩ := p.exists_number_eq_cons
    obtain ⟨hfirst, hsecond, hrest⟩ := Pair.runs_flatMap p ps
    have hs : (p :: ps).flatMap Pair.text = c :: (rest ++ p.spelling ++ ps.flatMap Pair.text) := by
      rw [List.flatMap_cons, Pair.text, hnumber]
      rfl
    rw [terms?_eq hs hc, hfirst, hsecond, hrest, ih,
      Number.ofText?_eq_some_iff.mpr ⟨p.isNumber, rfl⟩,
      TimeUnit.ofText?_eq_some_iff.mpr p.spelled]
    rfl

/-- What is read is a row of pairs. -/
theorem exists_pairs (h : terms? s = some ts) :
    ∃ ps : List Pair, ps.flatMap Pair.text = s ∧ ps.map Pair.term = ts := by
  fun_induction terms? s generalizing ts with
  | case1 =>
    cases h
    exact ⟨[], rfl, rfl⟩
  | case2 c rest hc number behind n u hunit hnumber =>
    rename_i ih
    obtain ⟨rs, hrs, rfl⟩ := Option.map_eq_some_iff.mp h
    obtain ⟨ps, htext, rfl⟩ := ih hrs
    obtain ⟨hisNumber, rfl⟩ := Number.ofText?_eq_some_iff.mp hnumber
    refine ⟨⟨number, u, _, hisNumber, TimeUnit.ofText?_eq_some_iff.mp hunit⟩ :: ps, ?_, rfl⟩
    rw [List.flatMap_cons, htext, Pair.text, List.append_assoc, List.takeWhile_append_dropWhile]
    change c :: (rest.takeWhile isNumberChar ++ rest.dropWhile isNumberChar) = c :: rest
    rw [List.takeWhile_append_dropWhile]
  | case3 => cases h
  | case4 => cases h

theorem terms?_eq_some_iff :
    terms? s = some ts ↔ ∃ ps : List Pair, ps.flatMap Pair.text = s ∧ ps.map Pair.term = ts := by
  refine ⟨exists_pairs, ?_⟩
  rintro ⟨ps, rfl, rfl⟩
  exact terms?_flatMap ps

/-! ## Durations -/

/-- What a duration amounts to: zero, or the pairs of a row of at least one. -/
inductive Amount where
  | zero
  | row (first : Pair) (others : List Pair)

namespace Amount

def text : Amount → List Char
  | zero => ['0']
  | row first others => (first :: others).flatMap Pair.text

/-- The seconds of the pairs, added up from left to right. -/
def seconds : Amount → Float
  | zero => 0.0
  | row first others => (first :: others).foldl (fun sum p => sum + p.seconds) 0.0

/-- A pair is longer than a zero. -/
theorem row_ne_zero (first : Pair) (others : List Pair) : (row first others).text ≠ ['0'] := by
  intro h
  have hnumber := List.length_pos_iff.mpr first.isNumber.ne_nil
  have hspelling := List.length_pos_iff.mpr (TimeUnit.spelled first.spelled).1
  have hlength := congrArg List.length h
  rw [text, List.flatMap_cons, Pair.text, List.length_append, List.length_append,
    List.length_singleton] at hlength
  omega

theorem text_injective : Function.Injective text := by
  rintro (_ | ⟨first, others⟩) (_ | ⟨first', others'⟩) h
  · rfl
  · exact absurd h.symm (row_ne_zero first' others')
  · exact absurd h (row_ne_zero first others)
  · cases Pair.flatMap_text_inj h
    rfl

/-- No amount begins with a sign. -/
theorem dropPlus_text (a : Amount) : Text.dropPlus a.text = a.text := by
  cases a with
  | zero => rfl
  | row first others =>
    obtain ⟨c, rest, hnumber, hc⟩ := first.exists_number_eq_cons
    have htext : (row first others).text =
        c :: (rest ++ first.spelling ++ others.flatMap Pair.text) := by
      rw [text, List.flatMap_cons, Pair.text, hnumber]
      rfl
    rw [htext]
    unfold Text.dropPlus
    split
    case h_1 heq =>
      cases heq
      exact absurd hc (by decide)
    case h_2 => rfl

end Amount

theorem total_terms (ps : List Pair) :
    total (ps.map Pair.term) = ps.foldl (fun sum p => sum + p.seconds) 0.0 := by
  rw [total, List.foldl_map]
  simp only [Pair.seconds_term]

/-- The seconds that a text without a sign writes. -/
def amount? (s : List Char) : Option Float :=
  if s = ['0'] then some 0.0 else if s.isEmpty then none else (terms? s).map total

theorem seconds?_eq (text : String) : seconds? text = amount? (Text.dropPlus text.toList) := by
  rfl

theorem amount?_eq_some_iff {v : Float} :
    amount? s = some v ↔ ∃ a : Amount, a.text = s ∧ a.seconds = v := by
  unfold amount?
  constructor
  · intro h
    split at h
    case isTrue hzero =>
      cases h
      exact ⟨.zero, hzero.symm, rfl⟩
    case isFalse =>
      split at h
      case isTrue => cases h
      case isFalse hany =>
        obtain ⟨ts, hts, rfl⟩ := Option.map_eq_some_iff.mp h
        obtain ⟨ps, rfl, rfl⟩ := terms?_eq_some_iff.mp hts
        cases ps with
        | nil => exact absurd rfl hany
        | cons first others => exact ⟨.row first others, rfl, (total_terms _).symm⟩
  · rintro ⟨_ | ⟨first, others⟩, rfl, rfl⟩
    · rfl
    · have hany : (Amount.row first others).text.isEmpty = false := by
        obtain ⟨c, rest, hnumber, -⟩ := first.exists_number_eq_cons
        rw [Amount.text, List.flatMap_cons, Pair.text, hnumber]
        rfl
      rw [if_neg (Amount.row_ne_zero first others), hany, if_neg Bool.false_ne_true, Amount.text,
        terms?_flatMap, Option.map_some, total_terms]
      rfl

/-- A duration as it is written. -/
structure Written where
  plus : Bool
  amount : Amount

namespace Written

def text (w : Written) : List Char := if w.plus then '+' :: w.amount.text else w.amount.text

def seconds (w : Written) : Float := w.amount.seconds

theorem dropPlus_text (w : Written) : Text.dropPlus w.text = w.amount.text := by
  obtain ⟨plus, amount⟩ := w
  cases plus with
  | true => rfl
  | false => exact amount.dropPlus_text

/-- No text is written in two ways. -/
theorem text_injective : Function.Injective text := by
  intro w w' h
  have hamount : w.amount = w'.amount := by
    apply Amount.text_injective
    rw [← w.dropPlus_text, h, w'.dropPlus_text]
  obtain ⟨plus, amount⟩ := w
  obtain ⟨plus', amount'⟩ := w'
  cases hamount
  have hlength := congrArg List.length h
  cases plus <;> cases plus' <;> simp_all [text]

/-- What is left of a text without its sign is written with a sign or without. -/
theorem exists_text_eq {a : Amount} (h : Text.dropPlus s = a.text) :
    ∃ w : Written, w.text = s ∧ w.amount = a := by
  unfold Text.dropPlus at h
  split at h
  case h_1 rest =>
    refine ⟨⟨true, a⟩, ?_, rfl⟩
    rw [h]
    rfl
  case h_2 => exact ⟨⟨false, a⟩, h.symm, rfl⟩

end Written

theorem seconds?_eq_some_iff {text : String} {v : Float} :
    seconds? text = some v ↔ ∃ w : Written, w.text = text.toList ∧ w.seconds = v := by
  rw [seconds?_eq, amount?_eq_some_iff]
  constructor
  · rintro ⟨a, ha, rfl⟩
    obtain ⟨w, hw, rfl⟩ := Written.exists_text_eq ha.symm
    exact ⟨w, hw, rfl⟩
  · rintro ⟨w, hw, rfl⟩
    refine ⟨w.amount, ?_, rfl⟩
    rw [← w.dropPlus_text, hw]

/-- A text has a value just if it is written by the grammar. It is written in one way at most, and
its value is the sum of the pairs that it is made of; any other text has none. -/
theorem seconds?_grammar (text : String) :
    (∀ v, seconds? text = some v ↔ ∃ w : Written, w.text = text.toList ∧ w.seconds = v) ∧
      (∀ w w' : Written, w.text = text.toList → w'.text = text.toList → w = w') ∧
      (seconds? text = none ↔ ∀ w : Written, w.text ≠ text.toList) := by
  refine ⟨fun v => seconds?_eq_some_iff, ?_, ?_⟩
  · intro w w' hw hw'
    exact Written.text_injective (hw.trans hw'.symm)
  · rw [Option.eq_none_iff_forall_ne_some]
    constructor
    · intro h w hw
      exact h w.seconds (seconds?_eq_some_iff.mpr ⟨w, hw, rfl⟩)
    · intro h v hv
      obtain ⟨w, hw, -⟩ := seconds?_eq_some_iff.mp hv
      exact h w hw

/-- One and a half hours and thirty seconds. -/
def hourAndHalf : Written where
  plus := false
  amount := .row
    ⟨['1', '.', '5'], .hour, ['h'], (@isNumber_append_point ['1'] ['5']).mpr
      ⟨by decide, List.all_eq_true.mp (by decide)⟩, by decide⟩
    [⟨['3', '0'], .second, ['s'], (isNumber_iff_of_not_mem (by decide)).mpr
      ⟨by decide, List.all_eq_true.mp (by decide)⟩, by decide⟩]

/-- The value of two units, with the bits of the doubles. -/
theorem seconds?_grammar_twoUnits : seconds? "1.5h30s" =
    some (0.0 + Float.ofBits 0x3FF8000000000000 * Float.ofBits 0x40AC200000000000 +
      Float.ofBits 0x403E000000000000 * Float.ofBits 0x3FF0000000000000) := by
  have hnumbers : nearest ['1', '.', '5'] = ⟨0x3FF8000000000000⟩ ∧
      nearest ['3', '0'] = ⟨0x403E000000000000⟩ := by decide +kernel
  have hseconds : hourAndHalf.seconds =
      0.0 + (nearest ['1', '.', '5']).toFloat * TimeUnit.hour.nearest.toFloat +
        (nearest ['3', '0']).toFloat * TimeUnit.second.nearest.toFloat := rfl
  rw [hnumbers.1, hnumbers.2] at hseconds
  exact ((seconds?_grammar "1.5h30s").1 _).mpr ⟨hourAndHalf, by decide, hseconds⟩

end NetworkRollout.Duration
