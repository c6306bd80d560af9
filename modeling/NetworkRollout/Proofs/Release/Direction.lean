import NetworkRollout.Proofs.Readings
import NetworkRollout.Proofs.Release.Precedence
import NetworkRollout.Proofs.Text.Pieces

/-!
# The direction of a change is an order

Names of releases are compared by the versions that they denote, and names that denote none only by
themselves. So a direction taken backwards is the opposite one, upgrades lead on to upgrades, and a
name may be replaced by any other spelling of its version.

* `Spelling`, `releaseVersion?_eq_some_iff`: the ways to write a version.
* `ReleaseChange.classify_swap`, `classify_congr_left`: directions backwards, and between names that
  are the same.
* `ReleaseChange.directions`: the laws of directions between any three names.
-/

namespace NetworkRollout

open Text

/-! ## Characters of versions -/

namespace Version

theorem isIdentifierChar_of_isDigit {c : Char} (h : c.isDigit = true) :
    isIdentifierChar c = true := by
  unfold isIdentifierChar Char.isAlphanum
  rw [h, Bool.or_true, Bool.true_or]

theorem isBlank_of_isIdentifierChar {c : Char} (h : isIdentifierChar c = true) :
    isBlank c = false := by
  rcases Bool.or_eq_true_iff.mp h with halphanum | hdash
  · exact isBlank_of_isAlphanum halphanum
  · rw [of_decide_eq_true hdash]
    decide

/-- Characters of identifiers, and dots. -/
def Plain (s : List Char) : Prop := ∀ c ∈ s, isIdentifierChar c = true ∨ c = '.'

theorem Plain.isBlank {s : List Char} (h : Plain s) : ∀ c ∈ s, Text.isBlank c = false := by
  intro c hc
  rcases h c hc with hc | rfl
  · exact isBlank_of_isIdentifierChar hc
  · decide

theorem plain_of_split {s : List Char}
    (h : ∀ piece ∈ s.splitOn '.', ∀ c ∈ piece, isIdentifierChar c = true) : Plain s := by
  intro c hc
  have hplace : c = '.' ∨ ∃ piece ∈ s.splitOn '.', c ∈ piece := mem_splitOn hc
  rcases hplace with hdot | ⟨piece, hpiece, hc⟩
  · exact Or.inr hdot
  · exact Or.inl (h piece hpiece c hc)

theorem plain_of_isBuild {s : List Char} (h : isBuild s = true) : Plain s := by
  refine plain_of_split fun piece hpiece => ?_
  have hpieces := List.all_eq_true.mp h piece hpiece
  exact List.all_eq_true.mp (Bool.and_eq_true_iff.mp hpieces).2

theorem isDigit_of_coreNumber? {s : List Char} (h : (coreNumber? s).isSome) :
    s ≠ [] ∧ ∀ c ∈ s, c.isDigit = true := by
  unfold coreNumber? at h
  split at h
  case isFalse => cases h
  case isTrue hplain =>
    simp only [isPlainNumber, Bool.and_eq_true, Bool.not_eq_true', List.isEmpty_eq_false_iff,
      List.all_eq_true] at hplain
    exact hplain.1

theorem isIdentifierChar_of_identifier? {s : List Char} (h : (identifier? s).isSome) :
    ∀ c ∈ s, isIdentifierChar c = true := by
  unfold identifier? at h
  split at h
  case isTrue => cases h
  case isFalse hsound =>
    simp only [Bool.or_eq_true, Bool.not_eq_true', not_or, Bool.not_eq_false,
      List.all_eq_true] at hsound
    exact hsound.2

/-- The parts that a version without build identifiers is read from. -/
structure Parts (s : List Char) where
  core : List Char
  pre : Option (List Char)
  numbers : List (List Char)
  written : s = rejoin '-' core pre
  splitOn_core : core.splitOn '.' = numbers
  numbers_ne_nil : numbers ≠ []
  each_number : ∀ number ∈ numbers, (coreNumber? number).isSome
  each_identifier : ∀ row, pre = some row → ∀ piece ∈ row.splitOn '.', (identifier? piece).isSome

theorem exists_parts {s : List Char} {v : Version} (hplus : '+' ∉ s) (h : parse? s = some v) :
    Nonempty (Parts s) := by
  unfold parse? at h
  rw [cutAt_of_not_mem hplus] at h
  dsimp only [Option.map_none, Option.getD_none] at h
  rw [if_pos rfl] at h
  rcases hcut : cutAt '-' s with ⟨core, pre⟩
  rw [hcut] at h
  dsimp only at h
  split at h
  case h_2 => cases h
  case h_1 major minor patch hnumbers =>
    obtain ⟨_, hmajor, h⟩ := Option.bind_eq_some_iff.mp h
    obtain ⟨_, hminor, h⟩ := Option.bind_eq_some_iff.mp h
    obtain ⟨_, hpatch, h⟩ := Option.bind_eq_some_iff.mp h
    refine ⟨core, pre, [major, minor, patch], (cutAt_eq_iff.mp hcut).2, hnumbers,
      List.cons_ne_nil _ _, by simp [hmajor, hminor, hpatch], ?_⟩
    rintro row rfl
    obtain ⟨_, hpre, -⟩ := Option.bind_eq_some_iff.mp h
    exact isSome_mapM_iff.mp (Option.isSome_of_eq_some hpre)

theorem Parts.plain {s : List Char} (p : Parts s) : Plain s := by
  have hcore : Plain p.core := by
    refine plain_of_split fun piece hpiece c hc => ?_
    rw [p.splitOn_core] at hpiece
    exact isIdentifierChar_of_isDigit ((isDigit_of_coreNumber? (p.each_number _ hpiece)).2 c hc)
  rw [p.written]
  refine forall_mem_rejoin.mpr ⟨hcore, fun row hrow => ⟨Or.inl rfl, ?_⟩⟩
  exact plain_of_split fun piece hpiece =>
    isIdentifierChar_of_identifier? (p.each_identifier row hrow piece hpiece)

/-- A version begins with a digit. -/
theorem Parts.head? {s : List Char} (p : Parts s) : ∃ c, c.isDigit = true ∧ s.head? = some c := by
  obtain ⟨number, numbers, hnumbers⟩ := List.exists_cons_of_ne_nil p.numbers_ne_nil
  have hnumber : number ∈ p.numbers := hnumbers ▸ List.mem_cons_self
  obtain ⟨hne, hdigits⟩ := isDigit_of_coreNumber? (p.each_number _ hnumber)
  obtain ⟨c, rest, rfl⟩ := List.exists_cons_of_ne_nil hne
  refine ⟨c, hdigits c List.mem_cons_self, ?_⟩
  rw [p.written, rejoin, List.head?_append, head?_of_splitOn (p.splitOn_core.trans hnumbers)]
  rfl

/-- Build identifiers change nothing about what is read. -/
theorem parse?_rejoin {front : List Char} (hplus : '+' ∉ front) {build : Option (List Char)}
    (hbuild : ∀ row, build = some row → isBuild row = true) :
    parse? (rejoin '+' front build) = parse? front := by
  unfold parse?
  rw [cutAt_eq_iff.mpr ⟨hplus, rfl⟩, cutAt_of_not_mem hplus]
  cases build with
  | none => rfl
  | some row =>
    dsimp only [Option.map_some, Option.getD_some, Option.map_none, Option.getD_none]
    rw [if_pos (hbuild row rfl), if_pos rfl]

theorem exists_front {s : List Char} {v : Version} (h : parse? s = some v) :
    ∃ front build, '+' ∉ front ∧ (∀ row, build = some row → isBuild row = true) ∧
      s = rejoin '+' front build ∧ parse? front = some v := by
  rcases hcut : cutAt '+' s with ⟨front, build⟩
  obtain ⟨hplus, rfl⟩ := cutAt_eq_iff.mp hcut
  have hbuild : ∀ row, build = some row → isBuild row = true := by
    rintro row rfl
    by_contra hnot
    unfold parse? at h
    rw [hcut] at h
    dsimp only [Option.map_some, Option.getD_some] at h
    rw [if_neg hnot] at h
    cases h
  exact ⟨front, build, hplus, hbuild, rfl, (parse?_rejoin hplus hbuild).symm.trans h⟩

end Version

/-! ## Spellings of a release -/

/-- A way to write a version: blanks around it, a letter `v` in front, build identifiers behind. -/
structure Spelling where
  before : List Char
  letter : Bool
  build : Option (List Char)
  behind : List Char
  before_blank : ∀ c ∈ before, isBlank c = true
  build_sound : ∀ row, build = some row → Version.isBuild row = true
  behind_blank : ∀ c ∈ behind, isBlank c = true

namespace Spelling

/-- What stands between the blanks. -/
def core (w : Spelling) (front : List Char) : List Char :=
  (if w.letter then ['v'] else []) ++ rejoin '+' front w.build

def write (w : Spelling) (front : List Char) : String :=
  String.ofList (w.before ++ w.core front ++ w.behind)

end Spelling

theorem dropLetterV_of_head? {c : Char} {s : List Char} (h : s.head? = some c) (hc : c ≠ 'v') :
    dropLetterV s = s := by
  unfold dropLetterV
  split
  case h_1 => exact absurd (Option.some.inj h).symm hc
  case h_2 => rfl

/-- The ways in which a version is written. -/
theorem releaseVersion?_eq_some_iff {release : String} {v : Version} :
    releaseVersion? release = some v ↔
      ∃ (w : Spelling) (front : List Char), '+' ∉ front ∧ Version.parse? front = some v ∧
        release = w.write front := by
  constructor
  · intro h
    -- Read from the outside: the blanks, the letter, the build identifiers.
    obtain ⟨before, behind, hbefore, hbehind, hrelease⟩ := exists_blanks release.toList
    obtain ⟨front, build, hplus, hbuild, hwritten, hfront⟩ := Version.exists_front h
    have hletter : ∃ letter : Bool, trim release.toList =
        (if letter then ['v'] else []) ++ dropLetterV (trim release.toList) := by
      unfold dropLetterV
      split
      case h_1 heq => exact ⟨true, heq⟩
      case h_2 => exact ⟨false, rfl⟩
    obtain ⟨letter, hletter⟩ := hletter
    refine ⟨⟨before, letter, build, behind, hbefore, hbuild, hbehind⟩, front, hplus, hfront, ?_⟩
    rw [Spelling.write, Spelling.core]
    dsimp only
    rw [← hwritten, ← hletter, ← hrelease, String.ofList_toList]
  · rintro ⟨w, front, hplus, hfront, rfl⟩
    obtain ⟨parts⟩ := Version.exists_parts hplus hfront
    obtain ⟨c, hdigit, hhead⟩ := parts.head?
    have hletter : ∀ c ∈ (if w.letter then ['v'] else []), isBlank c = false := by
      cases w.letter with
      | false => exact List.forall_mem_nil _
      | true => exact List.forall_mem_singleton.mpr (by decide)
    have hsign : isBlank '+' = false := by decide
    have hcore : ∀ c ∈ w.core front, isBlank c = false :=
      List.forall_mem_append.mpr ⟨hletter, forall_mem_rejoin.mpr ⟨parts.plain.isBlank,
        fun row hrow => ⟨hsign, (Version.plain_of_isBuild (w.build_sound row hrow)).isBlank⟩⟩⟩
    unfold releaseVersion? Spelling.write
    rw [String.toList_ofList, trim_of_blanks w.before_blank hcore w.behind_blank]
    have hdrop : dropLetterV (w.core front) = rejoin '+' front w.build := by
      unfold Spelling.core
      cases w.letter with
      | true => rfl
      | false =>
        -- A version begins with a digit, so no letter of its own is dropped.
        have hne : c ≠ 'v' := by
          rintro rfl
          cases hdigit
        refine dropLetterV_of_head? ?_ hne
        change (front ++ _).head? = some c
        rw [List.head?_append, hhead]
        rfl
    rw [hdrop, Version.parse?_rejoin hplus w.build_sound]
    exact hfront

/-! ## Directions -/

namespace ReleaseChange

variable {a b : String}

/-- The direction of the way back. -/
def reversed : ReleaseChange → ReleaseChange
  | upgrade => downgrade
  | same => same
  | downgrade => upgrade
  | unknown => unknown

theorem ofOrdering_swap (o : Ordering) : ofOrdering o.swap = (ofOrdering o).reversed := by
  cases o <;> rfl

theorem ofOrdering_injective {o p : Ordering} (h : ofOrdering o = ofOrdering p) : o = p := by
  cases o <;> cases p <;> first | rfl | cases h

/-- Names are compared by their versions, or are the same name, or there is nothing to tell. -/
theorem classify_cases (a b : String) :
    (∃ v w, releaseVersion? a = some v ∧ releaseVersion? b = some w ∧
        classify a b = ofOrdering (v.precedence w)) ∨
      (a = b ∧ classify a b = same) ∨ classify a b = unknown := by
  by_cases hsame : a = b ∧ a ≠ ""
  · exact Or.inr (Or.inl ⟨hsame.1, if_pos hsame⟩)
  · cases hv : releaseVersion? a with
    | none => exact Or.inr (Or.inr (classify_eq_unknown_iff.mpr ⟨hsame, Or.inl hv⟩))
    | some v =>
      cases hw : releaseVersion? b with
      | none => exact Or.inr (Or.inr (classify_eq_unknown_iff.mpr ⟨hsame, Or.inr hw⟩))
      | some w => exact Or.inl ⟨v, w, rfl, rfl, classify_of_versions hv hw⟩

theorem classify_swap (a b : String) : classify b a = (classify a b).reversed := by
  rcases classify_cases a b with ⟨v, w, hv, hw, h⟩ | ⟨rfl, h⟩ | h
  · have hswap : w.precedence v = (v.precedence w).swap := Std.OrientedCmp.eq_swap
    rw [h, classify_of_versions hw hv, hswap, ofOrdering_swap]
  · rw [h]
    rfl
  · obtain ⟨hne, hnone⟩ := classify_eq_unknown_iff.mp h
    rw [h]
    exact classify_eq_unknown_iff.mpr ⟨fun hba => hne ⟨hba.1.symm, hba.1 ▸ hba.2⟩, hnone.symm⟩

/-- A name that reads cannot be compared with one that does not. -/
theorem classify_of_not_read {v : Version} (ha : releaseVersion? a = some v)
    (hb : releaseVersion? b = none) : classify a b = unknown := by
  refine classify_eq_unknown_iff.mpr ⟨?_, Or.inr hb⟩
  rintro ⟨rfl, -⟩
  rw [ha] at hb
  cases hb

/-- Names of one version are the same. -/
theorem classify_eq_same {v : Version} (ha : releaseVersion? a = some v)
    (hb : releaseVersion? b = some v) : classify a b = same := by
  have hself : v.precedence v = .eq := Std.ReflCmp.compare_self
  rw [classify_of_versions ha hb, hself]
  rfl

/-- Of names that are the same, either may stand for the other. -/
theorem classify_congr_left (h : classify a b = same) (c : String) :
    classify a c = classify b c := by
  rcases classify_cases a b with ⟨v, w, hv, hw, hab⟩ | ⟨rfl, -⟩ | hunknown
  · have hlevel : v.precedence w = .eq := ofOrdering_injective (hab.symm.trans h)
    cases hu : releaseVersion? c with
    | none => rw [classify_of_not_read hv hu, classify_of_not_read hw hu]
    | some u =>
      rw [classify_of_versions hv hu, classify_of_versions hw hu, Std.TransCmp.congr_left hlevel]
  · rfl
  · rw [h] at hunknown
    cases hunknown

theorem classify_congr_right (h : classify a b = same) (c : String) :
    classify c a = classify c b := by
  rw [classify_swap a c, classify_congr_left h, ← classify_swap]

theorem versions_of_upgrade (h : classify a b = upgrade) :
    ∃ v w, releaseVersion? a = some v ∧ releaseVersion? b = some w ∧ v.precedence w = .lt := by
  rcases classify_cases a b with ⟨v, w, hv, hw, hab⟩ | ⟨-, hsame⟩ | hunknown
  · exact ⟨v, w, hv, hw, ofOrdering_injective (hab.symm.trans h)⟩
  · rw [h] at hsame
    cases hsame
  · rw [h] at hunknown
    cases hunknown

theorem classify_upgrade_trans {c : String} (hab : classify a b = upgrade)
    (hbc : classify b c = upgrade) : classify a c = upgrade := by
  obtain ⟨v, w, hv, hw, hvw⟩ := versions_of_upgrade hab
  obtain ⟨w', u, hw', hu, hwu⟩ := versions_of_upgrade hbc
  obtain rfl : w = w' := Option.some.inj (hw.symm.trans hw')
  rw [classify_of_versions hv hu, Std.TransCmp.lt_trans hvw hwu]
  rfl

/-- The laws of directions between three names of releases. -/
structure Directions (a b c : String) : Prop where
  upgrade_iff_downgrade : classify a b = upgrade ↔ classify b a = downgrade
  same_comm : classify a b = same ↔ classify b a = same
  unknown_comm : classify a b = unknown ↔ classify b a = unknown
  unknown_iff : classify a b = unknown ↔
    (releaseVersion? a = none ∨ releaseVersion? b = none) ∧ ¬ (a = b ∧ a ≠ "")
  upgrade_trans : classify a b = upgrade → classify b c = upgrade → classify a c = upgrade
  same_trans : classify a b = same → classify b c = same → classify a c = same
  same_upgrade : classify a b = same → classify b c = upgrade → classify a c = upgrade
  upgrade_same : classify a b = upgrade → classify b c = same → classify a c = upgrade
  /-- The names of one version give the same directions, whatever they are compared with. -/
  replaced : ∀ v, releaseVersion? a = some v → releaseVersion? b = some v →
    classify b c = classify a c ∧ classify c b = classify c a
  /-- These are its texts without build identifiers, with any of them behind, a letter in front, and
  blanks around. -/
  spelled : ∀ v, releaseVersion? a = some v ↔
    ∃ (w : Spelling) (front : List Char), '+' ∉ front ∧ Version.parse? front = some v ∧
      a = w.write front

/-- Directions between any names of releases, readable or not, follow these laws. -/
theorem directions (a b c : String) : Directions a b c where
  upgrade_iff_downgrade := by
    rw [classify_swap a b]
    cases classify a b <;> decide
  same_comm := by
    rw [classify_swap a b]
    cases classify a b <;> decide
  unknown_comm := by
    rw [classify_swap a b]
    cases classify a b <;> decide
  unknown_iff := classify_eq_unknown_iff.trans and_comm
  upgrade_trans := classify_upgrade_trans
  same_trans hab hbc := (classify_congr_left hab c).trans hbc
  same_upgrade hab hbc := (classify_congr_left hab c).trans hbc
  upgrade_same hab hbc := (classify_congr_right hbc a).symm.trans hab
  replaced v ha hb :=
    ⟨classify_congr_left (classify_eq_same hb ha) c,
      classify_congr_right (classify_eq_same hb ha) c⟩
  spelled _ := releaseVersion?_eq_some_iff

/-- From a release, written with all that may stand around it, past candidates of the next one. -/
theorem directions_candidates :
    classify " v4.10.9+build.007 " "4.11.0-rc.2" = upgrade ∧
      classify "4.11.0-rc.2" "4.11.0-rc.10" = upgrade ∧
      classify " v4.10.9+build.007 " "4.11.0-rc.10" = upgrade := by
  have hfirst : classify " v4.10.9+build.007 " "4.11.0-rc.2" = upgrade := by decide +kernel
  have hsecond : classify "4.11.0-rc.2" "4.11.0-rc.10" = upgrade := by decide +kernel
  exact ⟨hfirst, hsecond, (directions _ _ _).upgrade_trans hfirst hsecond⟩

end ReleaseChange

end NetworkRollout
