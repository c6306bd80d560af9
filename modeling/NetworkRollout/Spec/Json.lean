import NetworkRollout.Spec.Network
import NetworkRollout.Json.Record
import NetworkRollout.Json.Reader
import NetworkRollout.Json.Printer

/-!
# The JSON form of the desired network

Each record is written as an object in the order of its fields, absent options left out, and is
read by name or by position. The text form is what is kept of a spec once it has been applied.
-/

namespace NetworkRollout

open Json

namespace ClusterPool

def toJson (p : ClusterPool) : Json :=
  objectOf [always "cidr" (.text p.cidr), always "hostPrefix" (ofU32 p.hostPrefix)]

def ofJson? (j : Json) : Option ClusterPool := do
  let fs ← fields? ["cidr", "hostPrefix"] j
  return { cidr := ← fs.required "cidr" text?
           hostPrefix := ← fs.withDefault "hostPrefix" 0 u32? }

end ClusterPool

namespace HybridOverlay

def toJson (h : HybridOverlay) : Json :=
  objectOf [always "hybridClusterNetwork" (ofList ClusterPool.toJson h.pools),
    whenSome "hybridOverlayVXLANPort" ofU32 h.vxlanPort]

def ofJson? (j : Json) : Option HybridOverlay := do
  let fs ← fields? ["hybridClusterNetwork", "hybridOverlayVXLANPort"] j
  return { pools := ← fs.withDefault "hybridClusterNetwork" [] (listOf? ClusterPool.ofJson?)
           vxlanPort := ← fs.optional "hybridOverlayVXLANPort" u32? }

end HybridOverlay

namespace Ipsec

def toJson (_ : Ipsec) : Json := objectOf []

def ofJson? (j : Json) : Option Ipsec := (fields? [] j).map fun _ => {}

end Ipsec

namespace Gateway

def toJson (g : Gateway) : Json := objectOf [always "routingViaHost" (.bool g.routingViaHost)]

def ofJson? (j : Json) : Option Gateway := do
  let fs ← fields? ["routingViaHost"] j
  return { routingViaHost := ← fs.withDefault "routingViaHost" false bool? }

end Gateway

namespace PolicyAudit

def toJson (a : PolicyAudit) : Json :=
  objectOf [whenSome "rateLimit" ofU32 a.rateLimit, whenSome "maxFileSize" ofU32 a.maxFileSize,
    always "destination" (.text a.destination),
    always "syslogFacility" (.text a.syslogFacility)]

def ofJson? (j : Json) : Option PolicyAudit := do
  let fs ← fields? ["rateLimit", "maxFileSize", "destination", "syslogFacility"] j
  return { rateLimit := ← fs.optional "rateLimit" u32?
           maxFileSize := ← fs.optional "maxFileSize" u32?
           destination := ← fs.withDefault "destination" "" text?
           syslogFacility := ← fs.withDefault "syslogFacility" "" text? }

end PolicyAudit

namespace Overlay

def toJson (o : Overlay) : Json :=
  objectOf [whenSome "mtu" ofU32 o.mtu, whenSome "genevePort" ofU32 o.genevePort,
    whenSome "hybridOverlayConfig" HybridOverlay.toJson o.hybridOverlay,
    whenSome "ipsecConfig" Ipsec.toJson o.ipsec,
    whenSome "gatewayConfig" Gateway.toJson o.gateway,
    whenSome "policyAuditConfig" PolicyAudit.toJson o.policyAudit]

def ofJson? (j : Json) : Option Overlay := do
  let fs ← fields? ["mtu", "genevePort", "hybridOverlayConfig", "ipsecConfig", "gatewayConfig",
    "policyAuditConfig"] j
  return { mtu := ← fs.optional "mtu" u32?
           genevePort := ← fs.optional "genevePort" u32?
           hybridOverlay := ← fs.optional "hybridOverlayConfig" HybridOverlay.ofJson?
           ipsec := ← fs.optional "ipsecConfig" Ipsec.ofJson?
           gateway := ← fs.optional "gatewayConfig" Gateway.ofJson?
           policyAudit := ← fs.optional "policyAuditConfig" PolicyAudit.ofJson? }

end Overlay

namespace DefaultNetwork

def toJson (d : DefaultNetwork) : Json :=
  objectOf [always "type" (.text d.type),
    whenSome "ovnKubernetesConfig" Overlay.toJson d.overlay]

def ofJson? (j : Json) : Option DefaultNetwork := do
  let fs ← fields? ["type", "ovnKubernetesConfig"] j
  return { type := ← fs.withDefault "type" "" text?
           overlay := ← fs.optional "ovnKubernetesConfig" Overlay.ofJson? }

end DefaultNetwork

namespace MtuRange

def toJson (r : MtuRange) : Json :=
  objectOf [whenSome "from" ofU32 r.oldMtu, whenSome "to" ofU32 r.newMtu]

def ofJson? (j : Json) : Option MtuRange := do
  let fs ← fields? ["from", "to"] j
  return { oldMtu := ← fs.optional "from" u32?, newMtu := ← fs.optional "to" u32? }

end MtuRange

namespace MtuMigration

def toJson (m : MtuMigration) : Json :=
  objectOf [whenSome "network" MtuRange.toJson m.network,
    whenSome "machine" MtuRange.toJson m.machine]

def ofJson? (j : Json) : Option MtuMigration := do
  let fs ← fields? ["network", "machine"] j
  return { network := ← fs.optional "network" MtuRange.ofJson?
           machine := ← fs.optional "machine" MtuRange.ofJson? }

end MtuMigration

namespace Migration

def toJson (m : Migration) : Json := objectOf [whenSome "mtu" MtuMigration.toJson m.mtu]

def ofJson? (j : Json) : Option Migration := do
  let fs ← fields? ["mtu"] j
  return { mtu := ← fs.optional "mtu" MtuMigration.ofJson? }

end Migration

namespace Collectors

def toJson (c : Collectors) : Json := objectOf [always "collectors" (ofList .text c.endpoints)]

def ofJson? (j : Json) : Option Collectors := do
  let fs ← fields? ["collectors"] j
  return { endpoints := ← fs.withDefault "collectors" [] (listOf? text?) }

end Collectors

namespace FlowExport

def toJson (f : FlowExport) : Json :=
  objectOf [whenSome "netFlow" Collectors.toJson f.netFlow,
    whenSome "sFlow" Collectors.toJson f.sFlow, whenSome "ipfix" Collectors.toJson f.ipfix]

def ofJson? (j : Json) : Option FlowExport := do
  let fs ← fields? ["netFlow", "sFlow", "ipfix"] j
  return { netFlow := ← fs.optional "netFlow" Collectors.ofJson?
           sFlow := ← fs.optional "sFlow" Collectors.ofJson?
           ipfix := ← fs.optional "ipfix" Collectors.ofJson? }

end FlowExport

namespace NetworkSpec

def toJson (s : NetworkSpec) : Json :=
  objectOf [always "clusterNetwork" (ofList ClusterPool.toJson s.clusterNetwork),
    always "serviceNetwork" (ofList .text s.serviceNetwork),
    always "defaultNetwork" s.defaultNetwork.toJson,
    whenSome "migration" Migration.toJson s.migration,
    whenSome "exportNetworkFlows" FlowExport.toJson s.flowExport]

def ofJson? (j : Json) : Option NetworkSpec := do
  let fs ← fields? ["clusterNetwork", "serviceNetwork", "defaultNetwork", "migration",
    "exportNetworkFlows"] j
  return { clusterNetwork := ← fs.withDefault "clusterNetwork" [] (listOf? ClusterPool.ofJson?)
           serviceNetwork := ← fs.withDefault "serviceNetwork" [] (listOf? text?)
           defaultNetwork := ← fs.withDefault "defaultNetwork" {} DefaultNetwork.ofJson?
           migration := ← fs.optional "migration" Migration.ofJson?
           flowExport := ← fs.optional "exportNetworkFlows" FlowExport.ofJson? }

def toText (s : NetworkSpec) : String := s.toJson.render

def ofText? (text : String) : Option NetworkSpec := (Json.ofString? text).bind ofJson?

end NetworkSpec

end NetworkRollout
