import Mathlib.Data.List.Forall2

/-!
# Rows of readings

What is read piece by piece is read if every piece is, and then each result is that of its piece.
Otherwise the first piece that fails decides.

* `isSome_mapM_iff`, `mapM_eq_ok_iff_forall₂`: rows that are read.
* `mapM_eq_error_iff`, `exists_error_of_mapM`: rows that fail.
-/

namespace NetworkRollout

/-! ## Pieces that may not read -/

theorem isSome_mapM_iff {α β : Type} {f : α → Option β} {l : List α} :
    (l.mapM f).isSome ↔ ∀ a ∈ l, (f a).isSome := by
  induction l with
  | nil => simp
  | cons a rest ih =>
    rw [List.mapM_cons, List.forall_mem_cons, ← ih]
    cases f a with
    | none => simp
    | some b => cases rest.mapM f <;> simp

/-! ## Pieces that may fail -/

section Rows

variable {α β ε : Type} {f : α → Except ε β} {l : List α} {bs : List β} {e : ε}

theorem mapM_eq_ok_iff_forall₂ :
    l.mapM f = .ok bs ↔ List.Forall₂ (fun a b => f a = .ok b) l bs := by
  induction l generalizing bs with
  | nil =>
    rw [List.forall₂_nil_left_iff]
    constructor
    · rintro ⟨⟩
      rfl
    · rintro rfl
      rfl
  | cons a l ih =>
    rw [List.mapM_cons, List.forall₂_cons_left_iff]
    constructor
    · intro h
      cases hfirst : f a with
      | error e =>
        rw [hfirst] at h
        cases h
      | ok b =>
        rw [hfirst] at h
        cases hrest : l.mapM f with
        | error e =>
          rw [hrest] at h
          cases h
        | ok bs' =>
          rw [hrest] at h
          cases h
          exact ⟨b, bs', rfl, ih.mp hrest, rfl⟩
    · rintro ⟨b, bs', hfirst, hrest, rfl⟩
      rw [hfirst, ih.mpr hrest]
      rfl

theorem mapM_cons_eq_error_iff {a : α} :
    (a :: l).mapM f = .error e ↔ f a = .error e ∨ (∃ b, f a = .ok b) ∧ l.mapM f = .error e := by
  rw [List.mapM_cons]
  cases f a with
  | error e' =>
    constructor
    · rintro ⟨⟩
      exact Or.inl rfl
    · rintro (h | ⟨⟨b, h⟩, -⟩)
      · cases h
        rfl
      · cases h
  | ok b =>
    cases l.mapM f with
    | error e' =>
      constructor
      · rintro ⟨⟩
        exact Or.inr ⟨⟨b, rfl⟩, rfl⟩
      · rintro (h | ⟨-, h⟩)
        · cases h
        · cases h
          rfl
    | ok bs =>
      constructor
      · rintro ⟨⟩
      · rintro (h | ⟨-, h⟩) <;> cases h

/-- The first failure decides. -/
theorem mapM_eq_error_iff :
    l.mapM f = .error e ↔ ∃ before a behind, l = before ++ a :: behind ∧
      (∀ b ∈ before, ∃ c, f b = .ok c) ∧ f a = .error e := by
  induction l with
  | nil =>
    constructor
    · rintro ⟨⟩
    · rintro ⟨before, a, behind, hl, -⟩
      exact absurd hl.symm (List.append_ne_nil_of_right_ne_nil before (List.cons_ne_nil a behind))
  | cons a l ih =>
    rw [mapM_cons_eq_error_iff, ih]
    constructor
    · rintro (hfirst | ⟨hfirst, before, b, behind, rfl, hbefore, hb⟩)
      · exact ⟨[], a, l, rfl, List.forall_mem_nil _, hfirst⟩
      · exact ⟨a :: before, b, behind, rfl, List.forall_mem_cons.mpr ⟨hfirst, hbefore⟩, hb⟩
    · rintro ⟨_ | ⟨first, before⟩, b, behind, hl, hbefore, hb⟩
      · cases hl
        exact Or.inl hb
      · cases hl
        obtain ⟨hfirst, hbefore⟩ := List.forall_mem_cons.mp hbefore
        exact Or.inr ⟨hfirst, before, b, behind, rfl, hbefore, hb⟩

/-- The piece that a row fails at. -/
theorem exists_error_of_mapM (h : l.mapM f = .error e) : ∃ a ∈ l, f a = .error e := by
  obtain ⟨before, a, behind, rfl, -, ha⟩ := mapM_eq_error_iff.mp h
  exact ⟨a, List.mem_append_right _ List.mem_cons_self, ha⟩

end Rows

end NetworkRollout
