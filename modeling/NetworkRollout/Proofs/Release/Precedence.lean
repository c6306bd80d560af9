import NetworkRollout.Release.Change

/-!
# The precedence of versions is an order

`Version.precedence` compares the three numbers, then the pre-release identifiers. Each of its
parts is written as a lexicographic comparison of the standard library, whose order laws then
carry over.

* `instance : Std.TransCmp Version.precedence`: of two versions one comes first or they are level,
  the two directions agree, and the order is transitive.
* `Version.NotAfter`: a version is not newer than another; reflexive and transitive.
* `classify_of_versions`: between release names that read, the direction of a change is the
  precedence of what they denote. This holds for equal names too, so the first case of
  `ReleaseChange.classify` only matters for names that do not read.
-/

namespace NetworkRollout

namespace Version

/-! ## Rows of identifiers -/

theorem compareWords_eq_compareLex (s t : List Char) :
    compareWords s t = List.compareLex (compareOn Char.toNat) s t := by
  induction s generalizing t with
  | nil => cases t <;> rfl
  | cons c cs ih =>
    cases t with
    | nil => rfl
    | cons d ds => rw [compareWords, List.compareLex_cons_cons, ih, compareOn]

instance : Std.TransCmp compareWords := by
  have h : compareWords = List.compareLex (compareOn Char.toNat) :=
    funext fun s => funext fun t => compareWords_eq_compareLex s t
  rw [h]
  infer_instance

instance : Std.OrientedCmp compareIdentifiers where
  eq_swap {a b} := by
    cases a with
    | number m =>
      cases b with
      | number n =>
        show compare m n = (compare n m).swap
        exact Std.OrientedCmp.eq_swap
      | word t => rfl
    | word s =>
      cases b with
      | number n => rfl
      | word t =>
        show compareWords s t = (compareWords t s).swap
        exact Std.OrientedCmp.eq_swap

instance : Std.TransCmp compareIdentifiers where
  isLE_trans {a b c} hab hbc := by
    cases a with
    | number m =>
      cases c with
      | word t => rfl
      | number k =>
        cases b with
        | number n =>
          show (compare m k).isLE = true
          exact Std.TransCmp.isLE_trans (show (compare m n).isLE = true from hab) hbc
        | word s => cases hbc
    | word s =>
      cases b with
      | number n => cases hab
      | word t =>
        cases c with
        | number k => cases hbc
        | word u =>
          show (compareWords s u).isLE = true
          exact Std.TransCmp.isLE_trans (show (compareWords s t).isLE = true from hab) hbc

theorem compareRows_eq_compareLex (as bs : List Identifier) :
    compareRows as bs = List.compareLex compareIdentifiers as bs := by
  induction as generalizing bs with
  | nil => cases bs <;> rfl
  | cons a as ih =>
    cases bs with
    | nil => rfl
    | cons b bs => rw [compareRows, List.compareLex_cons_cons, ih]

/-! ## Versions -/

/-- The rank that puts every pre-release in front of its release. -/
def releaseRank (identifiers : List Identifier) : Nat := if identifiers.isEmpty then 1 else 0

theorem comparePrereleases_eq_compareLex (as bs : List Identifier) :
    comparePrereleases as bs =
      compareLex (compareOn releaseRank) (List.compareLex compareIdentifiers) as bs := by
  cases as with
  | nil => cases bs <;> rfl
  | cons a as =>
    cases bs with
    | nil => rfl
    | cons b bs => exact compareRows_eq_compareLex (a :: as) (b :: bs)

instance : Std.TransCmp comparePrereleases := by
  have h : comparePrereleases =
      compareLex (compareOn releaseRank) (List.compareLex compareIdentifiers) :=
    funext fun as => funext fun bs => comparePrereleases_eq_compareLex as bs
  rw [h]
  infer_instance

instance : Std.TransCmp fun v w : Version => comparePrereleases v.prerelease w.prerelease where
  eq_swap {v w} := by
    show comparePrereleases v.prerelease w.prerelease =
      (comparePrereleases w.prerelease v.prerelease).swap
    exact Std.OrientedCmp.eq_swap
  isLE_trans {u v w} huv hvw := by
    show (comparePrereleases u.prerelease w.prerelease).isLE = true
    exact Std.TransCmp.isLE_trans
      (show (comparePrereleases u.prerelease v.prerelease).isLE = true from huv) hvw

theorem precedence_eq_compareLex :
    precedence = compareLex (compareOn major) (compareLex (compareOn minor)
      (compareLex (compareOn patch) fun v w => comparePrereleases v.prerelease w.prerelease)) :=
  rfl

instance : Std.TransCmp precedence := by
  rw [precedence_eq_compareLex]
  infer_instance

/-- A version is not newer than another one. -/
def NotAfter (v w : Version) : Prop := (v.precedence w).isLE = true

instance (v w : Version) : Decidable (v.NotAfter w) := inferInstanceAs (Decidable (_ = true))

theorem NotAfter.refl (v : Version) : v.NotAfter v :=
  Ordering.isLE_of_eq_eq Std.ReflCmp.compare_self

theorem NotAfter.trans {u v w : Version} (huv : u.NotAfter v) (hvw : v.NotAfter w) :
    u.NotAfter w := Std.TransCmp.isLE_trans huv hvw

end Version

/-! ## The direction of a change -/

namespace ReleaseChange

theorem classify_of_versions {deployed desired : String} {v w : Version}
    (hv : releaseVersion? deployed = some v) (hw : releaseVersion? desired = some w) :
    classify deployed desired = ofOrdering (v.precedence w) := by
  unfold classify
  split
  next h =>
    obtain ⟨rfl, -⟩ := h
    have hvw : v = w := Option.some.inj (hv.symm.trans hw)
    have hself : w.precedence w = .eq := Std.ReflCmp.compare_self
    rw [hvw, hself]
    rfl
  next => rw [hv, hw]

theorem classify_self {release : String} (h : release ≠ "") : classify release release = same := by
  simp [classify, h]

end ReleaseChange

end NetworkRollout
