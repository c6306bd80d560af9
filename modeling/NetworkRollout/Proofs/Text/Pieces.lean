import Mathlib.Data.List.TakeWhile
import NetworkRollout.Text.Blank
import NetworkRollout.Text.Cut

/-!
# Pieces of a text

Every character of a text that is split stands in a piece or separates two of them, and every
character of a text that is trimmed stands in what is left or is a blank around it.

* `Text.mem_splitOn`, `Text.cutAt_eq_iff`: what a text is made of, told by its pieces.
* `Text.trim_of_blanks`, `Text.exists_blanks`: what trimming takes away.
* `Text.takeWhile_append_of_ends`, `Text.dropWhile_append_of_ends`: a run of characters in front.
-/

namespace NetworkRollout

namespace Text

variable {separator : Char} {s front : List Char}

/-! ## Separators -/

theorem mem_intercalate {c : Char} {pieces : List (List Char)}
    (h : c ∈ [separator].intercalate pieces) : c = separator ∨ ∃ piece ∈ pieces, c ∈ piece := by
  induction pieces with
  | nil => cases h
  | cons piece rest ih =>
    cases rest with
    | nil =>
      rw [List.intercalate_singleton] at h
      exact Or.inr ⟨piece, List.mem_cons_self, h⟩
    | cons next rest =>
      rw [List.intercalate_cons_cons, List.append_assoc] at h
      rcases List.mem_append.mp h with hpiece | hbehind
      · exact Or.inr ⟨piece, List.mem_cons_self, hpiece⟩
      · rcases List.mem_cons.mp hbehind with hc | hrest
        · exact Or.inl hc
        · rcases ih hrest with hc | ⟨later, hlater, hc⟩
          · exact Or.inl hc
          · exact Or.inr ⟨later, List.mem_cons_of_mem _ hlater, hc⟩

theorem mem_splitOn {c : Char} (h : c ∈ s) :
    c = separator ∨ ∃ piece ∈ s.splitOn separator, c ∈ piece := by
  have hs : [separator].intercalate (s.splitOn separator) = s := List.intercalate_splitOn separator
  rw [← hs] at h
  exact mem_intercalate h

/-- A text begins as its first piece does. -/
theorem head?_of_splitOn {c : Char} {piece : List Char} {pieces : List (List Char)}
    (h : s.splitOn separator = (c :: piece) :: pieces) : s.head? = some c := by
  have hs : [separator].intercalate (s.splitOn separator) = s := List.intercalate_splitOn separator
  rw [← hs, h]
  cases pieces with
  | nil =>
    rw [List.intercalate_singleton]
    rfl
  | cons next rest =>
    rw [List.intercalate_cons_cons]
    rfl

theorem cutAt_of_not_mem (h : separator ∉ s) : cutAt separator s = (s, none) := by
  have hall : ∀ c ∈ s, decide (c ≠ separator) = true := fun c hc =>
    decide_eq_true fun heq => h (heq ▸ hc)
  unfold cutAt
  rw [List.takeWhile_eq_self_iff.mpr hall, List.dropWhile_eq_nil_iff.mpr hall]

theorem cutAt_append (h : separator ∉ front) (rest : List Char) :
    cutAt separator (front ++ separator :: rest) = (front, some rest) := by
  have hall : ∀ c ∈ front, decide (c ≠ separator) = true := fun c hc =>
    decide_eq_true fun heq => h (heq ▸ hc)
  unfold cutAt
  rw [List.takeWhile_append_of_pos hall, List.dropWhile_append_of_pos hall]
  simp

/-- A text in front of a separator and what stands behind it, put together again. -/
def rejoin (separator : Char) (front : List Char) (rest : Option (List Char)) : List Char :=
  front ++ (rest.map (separator :: ·)).getD []

theorem rejoin_none (separator : Char) (front : List Char) : rejoin separator front none = front :=
  List.append_nil front

theorem forall_mem_rejoin {P : Char → Prop} {rest : Option (List Char)} :
    (∀ c ∈ rejoin separator front rest, P c) ↔
      (∀ c ∈ front, P c) ∧ ∀ row, rest = some row → P separator ∧ ∀ c ∈ row, P c := by
  unfold rejoin
  rw [List.forall_mem_append]
  cases rest with
  | none => simp
  | some row => simp

/-- A text that is cut is the text in front, without the separator, and what is behind. -/
theorem cutAt_eq_iff {rest : Option (List Char)} :
    cutAt separator s = (front, rest) ↔ separator ∉ front ∧ s = rejoin separator front rest := by
  constructor
  · intro h
    by_cases hmem : separator ∈ s
    · obtain ⟨front', rest', rfl, hfront⟩ := List.eq_append_cons_of_mem hmem
      rw [cutAt_append hfront] at h
      cases h
      exact ⟨hfront, rfl⟩
    · rw [cutAt_of_not_mem hmem] at h
      cases h
      exact ⟨hmem, (rejoin_none _ _).symm⟩
  · rintro ⟨hfront, rfl⟩
    cases rest with
    | none =>
      rw [rejoin_none]
      exact cutAt_of_not_mem hfront
    | some rest => exact cutAt_append hfront rest

/-! ## Runs -/

section Runs

variable {p : Char → Bool} {rest : List Char}

/-- A run of characters ends where the first other one stands. -/
theorem takeWhile_append_of_ends (h : ∀ c ∈ front, p c = true)
    (hends : ∀ c, rest.head? = some c → p c = false) : (front ++ rest).takeWhile p = front := by
  rw [List.takeWhile_append_of_pos h]
  cases rest with
  | nil => simp
  | cons c rest => simp [hends c rfl]

theorem dropWhile_append_of_ends (h : ∀ c ∈ front, p c = true)
    (hends : ∀ c, rest.head? = some c → p c = false) : (front ++ rest).dropWhile p = rest := by
  rw [List.dropWhile_append_of_pos h]
  cases rest with
  | nil => simp
  | cons c rest => simp [hends c rfl]

end Runs

/-! ## Blanks -/

/-- No letter and no digit is a blank. -/
theorem isBlank_of_isAlphanum {c : Char} (h : c.isAlphanum = true) : isBlank c = false := by
  have hrange : 48 ≤ c.toNat ∧ c.toNat ≤ 57 ∨ 65 ≤ c.toNat ∧ c.toNat ≤ 90 ∨
      97 ≤ c.toNat ∧ c.toNat ≤ 122 := by
    unfold Char.isAlphanum Char.isAlpha Char.isUpper Char.isLower Char.isDigit at h
    simp only [Bool.or_eq_true, Bool.and_eq_true, decide_eq_true_eq, ge_iff_le,
      UInt32.le_iff_toNat_le] at h
    rcases h with (hupper | hlower) | hdigit
    · exact Or.inr (Or.inl hupper)
    · exact Or.inr (Or.inr hlower)
    · exact Or.inl hdigit
  unfold isBlank
  generalize c.toNat = n at hrange
  simp
  omega

theorem trimStart_of_not_blank (h : ∀ c ∈ s, isBlank c = false) : trimStart s = s := by
  cases s with
  | nil => rfl
  | cons c s => exact trimStart_cons s (h c List.mem_cons_self)

/-- Nothing but the blanks around a text without blanks is taken away. -/
theorem trim_of_blanks {before behind : List Char} (hbefore : ∀ c ∈ before, isBlank c = true)
    (hs : ∀ c ∈ s, isBlank c = false) (hbehind : ∀ c ∈ behind, isBlank c = true) :
    trim (before ++ s ++ behind) = s := by
  have hfront : trimStart (before ++ s ++ behind) = trimStart (s ++ behind) := by
    rw [List.append_assoc]
    exact List.dropWhile_append_of_pos hbefore
  cases s with
  | nil =>
    have hnone : trimStart behind = [] := List.dropWhile_eq_nil_iff.mpr hbehind
    rw [trim, hfront, List.nil_append, hnone]
    rfl
  | cons c s =>
    have hback : trimStart (behind.reverse ++ (c :: s).reverse) = trimStart (c :: s).reverse :=
      List.dropWhile_append_of_pos fun d hd => hbehind d (List.mem_reverse.mp hd)
    rw [trim, hfront, List.cons_append, trimStart_cons _ (hs c List.mem_cons_self),
      ← List.cons_append, List.reverse_append, hback,
      trimStart_of_not_blank fun d hd => hs d (List.mem_reverse.mp hd), List.reverse_reverse]

theorem exists_blanks_trimStart (s : List Char) :
    ∃ before, (∀ c ∈ before, isBlank c = true) ∧ s = before ++ trimStart s :=
  ⟨s.takeWhile isBlank, fun _ hc => List.mem_takeWhile_imp hc,
    List.takeWhile_append_dropWhile.symm⟩

theorem exists_blanks (s : List Char) :
    ∃ before behind, (∀ c ∈ before, isBlank c = true) ∧ (∀ c ∈ behind, isBlank c = true) ∧
      s = before ++ trim s ++ behind := by
  obtain ⟨before, hbefore, hfront⟩ := exists_blanks_trimStart s
  obtain ⟨behind, hbehind, hback⟩ := exists_blanks_trimStart (trimStart s).reverse
  refine ⟨before, behind.reverse, hbefore, fun c hc => hbehind c (List.mem_reverse.mp hc), ?_⟩
  have hrest : trimStart s = trim s ++ behind.reverse := by
    rw [← List.reverse_reverse (trimStart s), hback, List.reverse_append]
    rfl
  rw [List.append_assoc, ← hrest]
  exact hfront

end Text

end NetworkRollout
