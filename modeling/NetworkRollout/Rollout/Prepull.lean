import NetworkRollout.Tier.Progressing

/-!
# Pulling the image ahead of the node update

Before an existing node tier moves to another release, a workload that does nothing is rolled out
with the new image to every node. The node update waits until that workload has finished.
-/

namespace NetworkRollout

structure PrepullStage where
  permitsNode : Bool
  rendersPrepuller : Bool
  deriving DecidableEq, Repr

namespace PrepullStage

/-- The node update goes on without a pre-puller. -/
def proceed : PrepullStage := ⟨true, false⟩

def hold : PrepullStage := ⟨false, true⟩

/-- Whether the node tier may move to the release yet. -/
def of (node prepuller : Option Tier) (release : String) : PrepullStage :=
  match node with
  | none => proceed
  | some node =>
    if node.isAt release then proceed
    else
      match prepuller with
      | none => hold
      | some prepuller =>
        if !prepuller.isAt release then hold
        else if prepuller.progressing true then hold
        else proceed

end PrepullStage

end NetworkRollout
