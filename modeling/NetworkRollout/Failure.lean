/-!
# Why a pass fails

The causes that end a pass, their texts, and which of them are worth an early retry.
-/

namespace NetworkRollout

inductive Failure where
  /-- The configuration of the cluster cannot be read. -/
  | clusterConfig (detail : String)
  /-- The installation document does not read. -/
  | installConfig (detail : String)
  /-- The control-plane nodes cannot be listed. -/
  | nodeDirectory (detail : String)
  /-- A control-plane node reports no internal address. -/
  | noInternalAddress (node : String)
  /-- There is no control-plane member to elect. -/
  | noControlPlaneMembers
  /-- The control plane runs outside the cluster. -/
  | externalControlPlane
  /-- The desired network is incoherent or cannot be changed to. -/
  | invalidConfig (faults : List String)
  /-- A manifest cannot be read, rendered or applied. -/
  | manifest (detail : String)
  /-- A request to the cluster failed. -/
  | kubernetesApi (detail : String)
  /-- Something else, in its own words. -/
  | other (text : String)
  deriving DecidableEq, Repr, Inhabited

namespace Failure

/-- What stands for the words that a text format has for its own errors. -/
def elided : String := "<detail>"

/-- The detail of a failure in a source; without its words when the source has no name. -/
def located (source : String) : String :=
  if source = "" then elided else source ++ ": " ++ elided

def message : Failure → String
  | clusterConfig detail =>
    s!"Unable to bootstrap OVN, unable to retrieve cluster config: {detail}"
  | installConfig detail =>
    s!"Unable to bootstrap OVN, unable to unmarshal install-config: {detail}"
  | nodeDirectory detail =>
    s!"Unable to bootstrap OVN, control plane node listing failed: {detail}"
  | noInternalAddress node => s!"No InternalIP found on master node '{node}'"
  | noControlPlaneMembers =>
    "No control plane nodes discovered, cannot elect a cluster initiator"
  | externalControlPlane =>
    "Unable to render OVN in a cluster with an external control plane: no control plane to target"
  | invalidConfig faults => "Invalid network configuration: " ++ "; ".intercalate faults
  | manifest detail => s!"Manifest error: {detail}"
  | kubernetesApi detail => s!"Kubernetes API error: {detail}"
  | other text => text

/-- Whether the failure may go away by itself soon. -/
def isTransient : Failure → Bool
  | clusterConfig _ => true
  | nodeDirectory _ => true
  | kubernetesApi _ => true
  | _ => false

end Failure

end NetworkRollout
