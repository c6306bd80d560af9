import NetworkRollout.Bootstrap.Snapshot
import NetworkRollout.Cluster.Names
import NetworkRollout.Template.Render

/-!
# The variables of manifests

What manifests may refer to: the databases, ports and modes that the snapshot gives, and settings
of the completed spec. A setting that is missing is an empty text.
-/

namespace NetworkRollout

namespace Snapshot

/-- A number as text, empty when it is missing. -/
def numberText (n : Option UInt32) : String :=
  match n with
  | some n => toString n.toNat
  | none => ""

/-- The values of the variables for a completed spec and a release. -/
def manifestVariables (s : Snapshot) (spec : NetworkSpec) (release : String) : Template.Variables :=
  let overlay := spec.overlay
  let setting (value : Option UInt32) : Template.Value := .text (numberText value)
  let flow (setting : FlowSettings → Option UInt32) : Template.Value :=
    .text (numberText (s.flow.bind setting))
  [("OVN_NB_DB_LIST", .text (s.databaseList Names.northboundPort)),
    ("OVN_SB_DB_LIST", .text (s.databaseList Names.southboundPort)),
    ("OVN_NB_RAFT_PORT", .text (toString Names.northboundRaftPort)),
    ("OVN_SB_RAFT_PORT", .text (toString Names.southboundRaftPort)),
    ("LISTEN_DUAL_STACK", .text s.listenSuffix),
    ("OVN_MIN_AVAILABLE", .text (toString s.quorum)),
    ("OVN_INITIATOR", .text s.initiator),
    ("OVN_NODE_MODE", .text s.nodeMode.word),
    ("OVN_GATEWAY_MODE", .text s.gatewayMode.word),
    ("SINGLE_NODE", .bool s.isSingleNode),
    ("RELEASE_VERSION", .text release),
    ("MTU", setting (overlay.bind (·.mtu))),
    ("GENEVE_PORT", setting (overlay.bind (·.genevePort))),
    ("IPSEC_ENABLED", .bool (overlay.bind (·.ipsec)).isSome),
    ("HYBRID_OVERLAY_ENABLED", .bool (overlay.bind (·.hybridOverlay)).isSome),
    ("IPFIX_COLLECTORS", .text ((s.ipfixCollectors spec).getD "")),
    ("IPFIX_CACHE_ACTIVE_TIMEOUT", flow (·.cacheActiveTimeout)),
    ("IPFIX_CACHE_MAX_FLOWS", flow (·.cacheMaxFlows)),
    ("IPFIX_SAMPLING", flow (·.sampling))]

end Snapshot

end NetworkRollout
