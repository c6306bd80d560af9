import NetworkRollout.Tier.State
import NetworkRollout.Number.Binary64

/-!
# Whether a rollout is under way

A workload is settled when every replica is updated, some are available, none is unavailable and
its controller has seen its latest generation. A hung rollout counts as settled when no more than
a tenth of the replicas, and at least one, are behind; the tenth is taken in double precision.

* `Tier.progressing_of_settled`: a settled tier is not progressing, hung or not.
-/

namespace NetworkRollout

/-- The double nearest to one tenth is `tenthSignificand / 2 ^ 55`. -/
def tenthSignificand : Nat := 3602879701896397

/-- The floor of `m * 2 ^ e`. -/
def floorScaled (m : Nat) (e : Int) : Nat :=
  if 0 ≤ e then m * twoTo e.toNat else m / twoTo (-e).toNat

/-- The floor of the double product of `n`, rounded to a double, and one tenth. -/
def doubleTenth (n : Nat) : Nat :=
  if n = 0 then 0
  else
    let (m, e) := significand n 1
    let (num, den) := scaleQuotient (m * tenthSignificand) (twoTo 55) (-e)
    let (m, e) := significand num den
    floorScaled m e

/-- How many replicas of a hung rollout may be behind: a tenth, and at least one. -/
def hungTolerance (desired : Int) : Int :=
  if 0 ≤ desired then max (doubleTenth desired.toNat) 1 else 1

namespace Progress

/-- Whether a counter says that the rollout is not complete. -/
def incomplete (p : Progress) : Bool :=
  p.updated < p.desired || 0 < p.unavailable || p.available = 0
    || p.observedGeneration < p.generation

end Progress

/-- Whether the tier is still rolling out a change. A hung rollout that is almost through can be
let off. -/
def Tier.progressing (t : Tier) (forgiveHung : Bool) : Bool :=
  t.progress.incomplete &&
    !(forgiveHung && t.hung &&
      t.progress.desired - t.progress.updated ≤ hungTolerance t.progress.desired)

theorem Tier.progressing_of_settled {t : Tier} (h : t.progress.incomplete = false)
    (forgiveHung : Bool) : t.progressing forgiveHung = false := by
  simp [Tier.progressing, h]

theorem Tier.progressing_false_eq (t : Tier) :
    t.progressing false = t.progress.incomplete := by
  simp [Tier.progressing]

end NetworkRollout
