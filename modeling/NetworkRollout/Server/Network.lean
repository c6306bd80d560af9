import NetworkRollout.Object.Metadata
import NetworkRollout.Status.Json
import NetworkRollout.Spec.Json

/-!
# The network object

The desired network and the status of its rollout as they are stored on the server.
-/

namespace NetworkRollout

structure NetworkObject where
  metadata : Metadata := {}
  spec : NetworkSpec := {}
  status : Option RolloutStatus := none
  deriving Repr, Inhabited

namespace NetworkObject

def ofJson? (j : Json) : Option NetworkObject := do
  let fs ← Json.fields? ["metadata", "spec", "status"] j
  return { metadata := ← fs.required "metadata" Metadata.ofJson?
           spec := ← fs.required "spec" NetworkSpec.ofJson?
           status := ← fs.optional "status" RolloutStatus.ofJson? }

def name (n : NetworkObject) : String := (n.metadata.name.or n.metadata.generateName).getD ""

def generation (n : NetworkObject) : Int := n.metadata.generation.getD 0

end NetworkObject

end NetworkRollout
