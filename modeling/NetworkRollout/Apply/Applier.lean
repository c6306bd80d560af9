import NetworkRollout.Apply.Plan
import NetworkRollout.Server.Cluster

/-!
# Applying objects

The live objects of tiers that are held back are read from the server and freed of what the server
owns. Objects are applied one after another; the first that fails ends it, and those before it
stay applied.
-/

namespace NetworkRollout

namespace Object

/-- A live object without what the server owns, so that it can be applied again. -/
def forReapply (o : Object) : Object :=
  { o with
    metadata := { o.metadata with managedFields := none, resourceVersion := none }
    data := o.data.erase "status" }

end Object

namespace Server

def liveTier (faults : Faults) (ns : Namespaces) (update : Bool) (name : String) (s : Server) :
    Except Failure (Option Object) × Server :=
  if update then (.ok none, s)
  else
    let (answer, s) := readIfExists faults .daemonSet ns.datapath name
      ("Failed to get DaemonSet " ++ name) Object.ofJson? s
    (answer.map (·.map Object.forReapply), s)

/-- The live objects of the tiers that a decision holds back. -/
def liveTiers (faults : Faults) (ns : Namespaces) (decision : Decision) (s : Server) :
    Except Failure LiveTiers × Server :=
  match liveTier faults ns decision.updateMaster Names.masterWorkload s with
  | (.error e, s) => (.error e, s)
  | (.ok master, s) =>
    match liveTier faults ns decision.updateNode Names.nodeWorkload s with
    | (.error e, s) => (.error e, s)
    | (.ok node, s) => (.ok { master, node }, s)

/-- The namespace that an object is applied in; empty for a kind that belongs to the cluster. -/
def applyNamespace (ns : Namespaces) (kind : Kind) (o : Object) : String :=
  if kind.namespaced then o.metadata.namespaceName.getD ns.datapath else ""

def applyObject (faults : Faults) (ns : Namespaces) (o : Object) (s : Server) :
    Except Failure Unit × Server :=
  match o.type with
  | none => (.error (.manifest (o.anyName ++ " has no apiVersion/kind")), s)
  | some type =>
    match discover faults type.apiVersion type.kind s with
    | (.error _, s) => (.error (unreadable ("Failed to discover " ++ type.kind)), s)
    | (.ok kind, s) =>
      match apply faults kind (applyNamespace ns kind o) o.anyName o.toJson s with
      | (.error e, s) =>
        (.error (failed ("Failed to apply " ++ type.kind ++ " " ++ o.anyName) e), s)
      | (.ok (), s) => (.ok (), s)

/-- Applies objects in their order; tells how many. -/
def applyAll (faults : Faults) (ns : Namespaces) :
    List Object → Server → Except Failure Nat × Server
  | [], s => (.ok 0, s)
  | o :: os, s =>
    match applyObject faults ns o s with
    | (.error e, s) => (.error e, s)
    | (.ok (), s) =>
      match applyAll faults ns os s with
      | (.error e, s) => (.error e, s)
      | (.ok n, s) => (.ok (n + 1), s)

end Server

end NetworkRollout
