/-!
# Names in the cluster

The objects that the operator reads and writes, and the keys under which it keeps its marks.
-/

namespace NetworkRollout.Names

/-- The annotation of the network that names the initiator of the databases. -/
def initiatorKey : String := "network.operator.openshift.io/ovn-cluster-initiator"

/-- The annotation of the network that holds the spec applied last. -/
def appliedSpecKey : String := "network.operator.openshift.io/applied-spec"

/-- The annotation of a workload that names its address family. -/
def familyKey : String := "networkoperator.openshift.io/ip-family-mode"

/-- The annotation of a workload whose rollout stopped making progress. -/
def hungKey : String := "networkoperator.openshift.io/rollout-hung"

/-- The annotation of a workload that names its release. -/
def releaseKey : String := "release.openshift.io/version"

def controlPlaneLabel : String := "node-role.kubernetes.io/master"

def masterWorkload : String := "ovnkube-master"

def nodeWorkload : String := "ovnkube-node"

def prepullerWorkload : String := "ovnkube-upgrades-prepuller"

/-- The config map that holds the installation document. -/
def clusterConfigNamespace : String := "kube-system"

def clusterConfigName : String := "cluster-config-v1"

def installConfigKey : String := "install-config"

def nodeModeConfig : String := "dpu-mode-config"

def gatewayModeConfig : String := "gateway-mode-config"

def flowsConfig : String := "ovs-flows-config"

def northboundPort : Nat := 9641

def southboundPort : Nat := 9642

def northboundRaftPort : Nat := 9643

def southboundRaftPort : Nat := 9644

def command : String := "cnro"

def fieldManager : String := command

end NetworkRollout.Names
