import NetworkRollout.Spec.Network
import NetworkRollout.Text.Address
import NetworkRollout.Text.Cut

/-!
# Whether a desired network is coherent

All faults of a spec are reported together: missing pools, pools of different address families,
more service pools than families, and numbers out of range.
-/

namespace NetworkRollout

/-- The address families that a list of pools covers. -/
structure Coverage where
  v4 : Bool
  v6 : Bool
  deriving DecidableEq, Repr

/-- Whether the address in front of the first slash is an IPv6 address. -/
def isIPv6Pool (cidr : String) : Bool := Text.isIPv6 (Text.cutAt '/' cidr.toList).1

namespace Coverage

/-- The families of a list of pools. What is not IPv6 counts as IPv4. -/
def ofPools (cidrs : List String) : Coverage :=
  ⟨cidrs.any (!isIPv6Pool ·), cidrs.any isIPv6Pool⟩

/-- No family at all. -/
def isEmpty (c : Coverage) : Bool := !c.v4 && !c.v6

/-- Both families. -/
def isDual (c : Coverage) : Bool := c.v4 && c.v6

end Coverage

namespace NetworkSpec

def clusterCoverage (spec : NetworkSpec) : Coverage :=
  .ofPools (spec.clusterNetwork.map (·.cidr))

def serviceCoverage (spec : NetworkSpec) : Coverage := .ofPools spec.serviceNetwork

end NetworkSpec

/-- Why a spec is not coherent. -/
inductive SpecFault where
  | noClusterNetwork
  | noServiceNetwork
  | differentFamilies
  | servicePools
  | mtu (value : UInt32)
  | genevePort (value : UInt32)
  deriving DecidableEq, Repr

namespace SpecFault

def message : SpecFault → String
  | noClusterNetwork => "ClusterNetwork cannot be empty"
  | noServiceNetwork => "ServiceNetwork cannot be empty"
  | differentFamilies => "ClusterNetwork and ServiceNetwork must have matching IP families"
  | servicePools =>
    "ServiceNetwork must have either a single CIDR or a dual-stack pair of CIDRs"
  | mtu value => s!"invalid MTU {value}"
  | genevePort value => s!"invalid GenevePort {value}"

end SpecFault

/-- The smallest and the largest MTU. -/
def mtuBounds : UInt32 × UInt32 := (576, 65536)

/-- The fault, if the condition holds. -/
def faultIf (condition : Bool) (fault : α) : List α := if condition then [fault] else []

namespace NetworkSpec

def poolFaults (spec : NetworkSpec) : List SpecFault :=
  let cluster := spec.clusterCoverage
  let service := spec.serviceCoverage
  let pools := spec.serviceNetwork.length
  faultIf cluster.isEmpty .noClusterNetwork
    ++ faultIf service.isEmpty .noServiceNetwork
    ++ faultIf (cluster ≠ service) .differentFamilies
    ++ faultIf (2 < pools || (pools = 2 && !service.isDual)) .servicePools

def overlayFaults (overlay : Overlay) : List SpecFault :=
  let mtuFault := match overlay.mtu with
    | some mtu => faultIf (mtu < mtuBounds.1 || mtuBounds.2 < mtu) (SpecFault.mtu mtu)
    | none => []
  let portFault := match overlay.genevePort with
    | some port => faultIf (port < 1 || 65535 < port) (SpecFault.genevePort port)
    | none => []
  mtuFault ++ portFault

def faults (spec : NetworkSpec) : List SpecFault :=
  spec.poolFaults ++ (spec.overlay.map overlayFaults).getD []

/-- The bytes of each packet that the tunnel takes, more of them with encryption. -/
def tunnelOverhead (spec : NetworkSpec) : UInt32 :=
  match spec.overlay with
  | some overlay => if overlay.ipsec.isSome then 146 else 100
  | none => 100

end NetworkSpec

end NetworkRollout
