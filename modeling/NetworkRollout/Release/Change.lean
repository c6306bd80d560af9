import NetworkRollout.Release.Version

/-!
# The direction of a release change

How a deployed release has to change to become the desired one. Blanks around a release and one
letter `v` before its number do not count, and neither do build identifiers.

* `classify_eq_unknown_iff`: a direction is unknown exactly when a release does not read and the
  two are not the same text.
-/

namespace NetworkRollout

/-- The direction in which a deployed release has to move. -/
inductive ReleaseChange where
  | upgrade
  | same
  | downgrade
  | unknown
  deriving DecidableEq, Repr

/-- Drops the letter `v` in front. -/
def dropLetterV : List Char → List Char
  | 'v' :: rest => rest
  | s => s

def releaseVersion? (release : String) : Option Version :=
  Version.parse? (dropLetterV (Text.trim release.toList))

namespace ReleaseChange

def word : ReleaseChange → String
  | upgrade => "upgrade"
  | same => "same"
  | downgrade => "downgrade"
  | unknown => "unknown"

def ofOrdering : Ordering → ReleaseChange
  | .lt => upgrade
  | .eq => same
  | .gt => downgrade

/-- How the deployed release has to change to become the desired one. Equal names need not be
versions. -/
def classify (deployed desired : String) : ReleaseChange :=
  if deployed = desired ∧ deployed ≠ "" then same
  else
    match releaseVersion? deployed, releaseVersion? desired with
    | some old, some new => ofOrdering (old.precedence new)
    | _, _ => unknown

theorem ofOrdering_ne_unknown (o : Ordering) : ofOrdering o ≠ unknown := by
  cases o <;> decide

theorem classify_eq_unknown_iff {deployed desired : String} :
    classify deployed desired = unknown ↔
      ¬ (deployed = desired ∧ deployed ≠ "") ∧
        (releaseVersion? deployed = none ∨ releaseVersion? desired = none) := by
  unfold classify
  split
  next h => exact ⟨fun hs => (ReleaseChange.noConfusion hs), fun hr => absurd h hr.1⟩
  next h =>
    cases releaseVersion? deployed <;> cases releaseVersion? desired <;>
      simp [h, ofOrdering_ne_unknown]

end ReleaseChange

end NetworkRollout
