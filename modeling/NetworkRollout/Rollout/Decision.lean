import NetworkRollout.Rollout.Permission
import NetworkRollout.Rollout.Prepull

/-!
# The rollout decision of a pass

A change of the address family has the first word, the releases the second, and the node update
is staged by the pre-puller.
-/

namespace NetworkRollout

/-- Which of the rendered tiers a pass may apply. -/
structure Decision where
  updateMaster : Bool := false
  updateNode : Bool := false
  renderPrepull : Bool := false
  deriving DecidableEq, Repr, Inhabited

namespace Decision

/-- What the family and the releases of the tiers permit. -/
def permission (tiers : Tiers) (family : Family) (release : String) : Permission :=
  match Permission.byFamily? tiers.node tiers.master family with
  | some p => p
  | none => Permission.byRelease tiers.node tiers.master release

/-- The decision for the release and the desired family. -/
def decide (tiers : Tiers) (family : Family) (release : String) : Decision :=
  let allowed := permission tiers family release
  if allowed.node then
    let stage := PrepullStage.of tiers.node tiers.prepuller release
    { updateMaster := allowed.master
      updateNode := stage.permitsNode
      renderPrepull := stage.rendersPrepuller }
  else { updateMaster := allowed.master }

end Decision

end NetworkRollout
