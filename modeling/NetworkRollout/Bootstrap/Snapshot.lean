import NetworkRollout.Tier.State
import NetworkRollout.Cluster.Modes
import NetworkRollout.Flow.Settings
import NetworkRollout.Spec.Network
import NetworkRollout.Text.Address

/-!
# What a pass knows of the cluster

The members of the control plane and the other facts that a pass decides on, with the texts that
manifests take from them.
-/

namespace NetworkRollout

structure Snapshot where
  /-- The internal addresses of the members, in ascending order. -/
  addresses : List String := []
  initiator : String := ""
  expectedReplicas : Nat := 0
  /-- Whether the discovery of the members ran into its deadline. -/
  timedOut : Bool := false
  topology : Topology := .highlyAvailable
  platform : String := ""
  nodeMode : NodeMode := .full
  gatewayMode : GatewayMode := .shared
  flow : Option FlowSettings := none
  tiers : Tiers := {}
  deriving DecidableEq, Repr, Inhabited

namespace Snapshot

/-- A host and a port; the host stands in brackets when it has colons itself. -/
def hostPort (host : String) (port : Nat) : String :=
  if ':' ∈ host.toList then s!"[{host}]:{port}" else s!"{host}:{port}"

def endpoint (port : Nat) (address : String) : String := "ssl:" ++ hostPort address port

/-- The endpoints of all members' databases between commas. -/
def databaseList (s : Snapshot) (port : Nat) : String :=
  ",".intercalate (s.addresses.map (endpoint port))

/-- The suffix of listen addresses that takes in IPv6, when the members have such addresses. -/
def listenSuffix (s : Snapshot) : String :=
  match s.addresses with
  | first :: _ => if Text.isIPv6 first.toList then ":[::]" else ""
  | [] => ""

def quorum (s : Snapshot) : Nat := s.addresses.length / 2 + 1

def isSingleNode (s : Snapshot) : Bool := s.addresses.length = 1

/-- The IPFIX collectors of the spec and of the flow settings between commas, if there are any. -/
def ipfixCollectors (s : Snapshot) (spec : NetworkSpec) : Option String :=
  let declared := spec.ipfixCollectors
  let merged := match s.flow with
    | some flow => flow.mergeCollectors declared
    | none => declared
  if merged = "" then none else some merged

end Snapshot

end NetworkRollout
