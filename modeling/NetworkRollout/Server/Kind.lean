/-!
# Kinds of stored objects

The kinds of objects, each with its API version and the plural that requests name it by. Some kinds
live in a namespace, the others belong to the cluster. Which kinds there are is up to the server.

* `Kind.find?`: the kind of an API version with a name, among the kinds of a server.
* `Kind.plainVersion`: an API version without a slash in front.
-/

namespace NetworkRollout

structure Kind where
  apiVersion : String
  name : String
  /-- What requests call the kind. It has the group in it where a plural alone would not do. -/
  plural : String
  namespaced : Bool
  deriving DecidableEq, Repr, Inhabited

namespace Kind

def configMap : Kind := ⟨"v1", "ConfigMap", "configmaps", true⟩

def node : Kind := ⟨"v1", "Node", "nodes", false⟩

def daemonSet : Kind := ⟨"apps/v1", "DaemonSet", "daemonsets", true⟩

def infrastructure : Kind :=
  ⟨"config.openshift.io/v1", "Infrastructure", "infrastructures", false⟩

def network : Kind := ⟨"operator.openshift.io/v1", "Network", "networks", false⟩

/-- The kinds of a server that does not say which ones it has. -/
def all : List Kind :=
  [configMap, ⟨"v1", "Namespace", "namespaces", false⟩, node,
    ⟨"v1", "Service", "services", true⟩, ⟨"v1", "ServiceAccount", "serviceaccounts", true⟩,
    daemonSet, ⟨"apps/v1", "Deployment", "deployments", true⟩,
    ⟨"rbac.authorization.k8s.io/v1", "ClusterRole", "clusterroles", false⟩,
    ⟨"rbac.authorization.k8s.io/v1", "Role", "roles", true⟩, infrastructure, network]

/-- An API version as a request names it. One without a group may be written with a slash. -/
def plainVersion (apiVersion : String) : String :=
  match apiVersion.toList with
  | '/' :: rest => String.ofList rest
  | _ => apiVersion

/-- The kind of an API version with a name. -/
def find? (apiVersion name : String) (kinds : List Kind := all) : Option Kind :=
  kinds.find? fun k => k.apiVersion = apiVersion && k.name = name

end Kind

end NetworkRollout
