/-!
# The desired cluster network

What a user asks of the cluster network: the address pools, the settings of the overlay datapath,
migrations in flight and the collectors of flow records.
-/

namespace NetworkRollout

/-- An address pool for pods, cut into one block per host. -/
structure ClusterPool where
  cidr : String
  hostPrefix : UInt32 := 0
  deriving DecidableEq, Repr, Inhabited

/-- The overlay that reaches hosts outside the cluster. -/
structure HybridOverlay where
  pools : List ClusterPool := []
  vxlanPort : Option UInt32 := none
  deriving DecidableEq, Repr, Inhabited

/-- Encryption between hosts. Its presence turns it on, and it has no settings. -/
structure Ipsec where
  deriving DecidableEq, Repr, Inhabited

structure Gateway where
  /-- Through the network stack of the host. -/
  routingViaHost : Bool := false
  deriving DecidableEq, Repr, Inhabited

/-- How the decisions of network policies are logged. -/
structure PolicyAudit where
  rateLimit : Option UInt32 := none
  maxFileSize : Option UInt32 := none
  destination : String := ""
  syslogFacility : String := ""
  deriving DecidableEq, Repr, Inhabited

structure Overlay where
  mtu : Option UInt32 := none
  genevePort : Option UInt32 := none
  hybridOverlay : Option HybridOverlay := none
  ipsec : Option Ipsec := none
  gateway : Option Gateway := none
  policyAudit : Option PolicyAudit := none
  deriving DecidableEq, Repr, Inhabited

/-- The network that pods are attached to by default. -/
structure DefaultNetwork where
  type : String := ""
  overlay : Option Overlay := none
  deriving DecidableEq, Repr, Inhabited

structure MtuRange where
  oldMtu : Option UInt32 := none
  newMtu : Option UInt32 := none
  deriving DecidableEq, Repr, Inhabited

/-- An MTU change of the pods' network and of the hosts. -/
structure MtuMigration where
  network : Option MtuRange := none
  machine : Option MtuRange := none
  deriving DecidableEq, Repr, Inhabited

structure Migration where
  mtu : Option MtuMigration := none
  deriving DecidableEq, Repr, Inhabited

/-- Where flow records of one protocol are sent, as `host:port`. -/
structure Collectors where
  endpoints : List String := []
  deriving DecidableEq, Repr, Inhabited

structure FlowExport where
  netFlow : Option Collectors := none
  sFlow : Option Collectors := none
  ipfix : Option Collectors := none
  deriving DecidableEq, Repr, Inhabited

structure NetworkSpec where
  clusterNetwork : List ClusterPool := []
  /-- One pool, or two for a dual-stack cluster. -/
  serviceNetwork : List String := []
  defaultNetwork : DefaultNetwork := {}
  migration : Option Migration := none
  flowExport : Option FlowExport := none
  deriving DecidableEq, Repr, Inhabited

namespace NetworkSpec

/-- The overlay settings, if there are any. -/
def overlay (spec : NetworkSpec) : Option Overlay := spec.defaultNetwork.overlay

def networkMtuMigration (spec : NetworkSpec) : Option MtuRange := do
  (← (← spec.migration).mtu).network

def ipfixEndpoints (spec : NetworkSpec) : List String :=
  match spec.flowExport with
  | some ⟨_, _, some collectors⟩ => collectors.endpoints
  | _ => []

def ipfixCollectors (spec : NetworkSpec) : String := ",".intercalate spec.ipfixEndpoints

end NetworkSpec

end NetworkRollout
