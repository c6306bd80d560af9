import NetworkRollout.Server.Server
import NetworkRollout.Server.Network
import NetworkRollout.Object.Object
import NetworkRollout.Bootstrap.Surroundings
import NetworkRollout.Cluster.Names

/-!
# The cluster behind the API server

The questions of a pass, answered by requests to the server. What does not exist is told apart from
what cannot be read. Texts are recorded as annotations of the network object.

* `Tier.ofWorkload?`: the state of a tier from its workload.
* `Server.surroundings`: the questions of a pass about a network.
-/

namespace NetworkRollout

/-! ## Reading objects -/

namespace MemberNode

/-- The first internal address in a list of addresses. -/
def internalAddress? (addresses : List Json) : Option String :=
  (addresses.find? fun a => a.field "type" == .text "InternalIP").map fun a =>
    (a.field "address").text?.getD ""

def ofNode (node : Json) : MemberNode :=
  { name := (node.path ["metadata", "name"]).text?.getD ""
    address := ((node.path ["status", "addresses"]).array?).bind internalAddress? }

end MemberNode

namespace Infrastructure

def ofObject (object : Json) : Infrastructure :=
  let status := object.field "status"
  { topology := .ofReport (status.field "controlPlaneTopology").text?
    platform := ((status.path ["platformStatus", "type"]).text?.or
      (status.field "platform").text?).getD "" }

end Infrastructure

namespace Tier

/-- Whether a value is an object or null. -/
def isObjectOrNull (j : Json) : Bool := j.isNull || j.object?.isSome

/-- A counter of a status; null and a missing one count as zero. -/
def counter? (status : Members) (name : String) : Option Int :=
  (Json.Fields.optional status name Json.i32?).map (·.getD 0)

/-- The counters of a rollout from the status and the generation of a workload. -/
def progress? (generation : Int) (status : Members) : Option Progress := do
  let _ ← ["collisionCount", "currentNumberScheduled", "numberMisscheduled", "numberReady"].mapM
    (counter? status)
  return {
    desired := ← counter? status "desiredNumberScheduled"
    updated := ← counter? status "updatedNumberScheduled"
    available := ← counter? status "numberAvailable"
    unavailable := ← counter? status "numberUnavailable"
    generation
    observedGeneration := (← Json.Fields.optional status "observedGeneration" Json.i64?).getD 0 }

/-- Whether a value is missing or the given text. -/
def isTextOrMissing (ms : Members) (name expected : String) : Bool :=
  match ms.get? name with
  | none => true
  | some j => j == .text expected

def ofWorkload? (workload : Json) : Option Tier := do
  let ms ← workload.object?
  let metadata ← Metadata.ofJson? (ms.getD "metadata")
  let status ← Json.Fields.optional ms "status" Json.object?
  let progress ← progress? (metadata.generation.getD 0) (status.getD [])
  if isTextOrMissing ms "apiVersion" Kind.daemonSet.apiVersion
      && isTextOrMissing ms "kind" Kind.daemonSet.name && isObjectOrNull (ms.getD "spec") then
    return {
      namespaceName := metadata.namespaceName.getD ""
      name := metadata.name.getD ""
      version := metadata.annotation? Names.releaseKey
      family := (metadata.annotation? Names.familyKey).bind Family.ofMarker?
      hung := (metadata.annotation? Names.hungKey).isSome
      progress }
  else none

end Tier

/-! ## The questions of a pass -/

namespace Server

/-- A failed request, told in words. -/
def failed (what : String) (e : ApiError) : Failure := .kubernetesApi (what ++ ": " ++ e.text)

/-- An answer that does not read, told in words. -/
def unreadable (what : String) : Failure := .kubernetesApi (what ++ ": " ++ Failure.elided)

/-- Asks for an object that may not exist, and reads it. -/
def readIfExists (faults : Faults) (kind : Kind) (namespaceName name what : String)
    (read : Json → Option α) (s : Server) : Except Failure (Option α) × Server :=
  match getIfExists faults kind namespaceName name s with
  | (.error e, s) => (.error (failed what e), s)
  | (.ok none, s) => (.ok none, s)
  | (.ok (some body), s) =>
    match read body with
    | some a => (.ok (some a), s)
    | none => (.error (unreadable what), s)

/-- The infrastructure; its default when there is no such object. -/
def infrastructure (faults : Faults) (s : Server) : Except Failure Infrastructure × Server :=
  let (answer, s) := readIfExists faults .infrastructure "" "cluster"
    "Failed to get Infrastructure" (fun body => some (Infrastructure.ofObject body)) s
  (answer.map (·.getD {}), s)

def configMapData? (body : Json) : Option TextMap :=
  (Json.Fields.optional body.members "data" TextMap.ofJson?).map (·.getD [])

/-- The data of a config map that may not exist. -/
def configMap (faults : Faults) (namespaceName name : String) (s : Server) :
    Except Failure (Option TextMap) × Server :=
  readIfExists faults .configMap namespaceName name
    ("Failed to get ConfigMap " ++ namespaceName ++ "/" ++ name) configMapData? s

/-- The tier of a workload that may not exist. -/
def workload (faults : Faults) (namespaceName name : String) (s : Server) :
    Except Failure (Option Tier) × Server :=
  readIfExists faults .daemonSet namespaceName name
    ("Failed to get DaemonSet " ++ namespaceName ++ "/" ++ name) Tier.ofWorkload? s

def controlPlaneNodes (faults : Faults) (s : Server) :
    Except Failure (List MemberNode) × Server :=
  match list faults .node Names.controlPlaneLabel s with
  | (.ok nodes, s) => (.ok (nodes.map MemberNode.ofNode), s)
  | (.error e, s) => (.error (.nodeDirectory ("Failed to list nodes: " ++ e.text)), s)

def recorded (faults : Faults) (network key : String) (s : Server) :
    Except Failure (Option String) × Server :=
  let what := "Failed to get Network " ++ network
  match get faults .network "" network s with
  | (.error e, s) => (.error (failed what e), s)
  | (.ok body, s) =>
    match NetworkObject.ofJson? body with
    | some n => (.ok (n.metadata.annotation? key), s)
    | none => (.error (unreadable what), s)

def annotationPatch (key value : String) : Json :=
  .object [("metadata", .object [("annotations", .object [(key, .text value)])])]

/-- Records a text as an annotation. An answer that does not read is a failure, though the text is
stored by then. -/
def record (faults : Faults) (network key value : String) (s : Server) :
    Except Failure Unit × Server :=
  let what := "Failed to annotate Network " ++ network
  match patch faults .network network (annotationPatch key value) s with
  | (.error e, s) => (.error (failed what e), s)
  | (.ok body, s) =>
    match NetworkObject.ofJson? body with
    | some _ => (.ok (), s)
    | none => (.error (unreadable what), s)

/-- Merges a patch into the status of a network object. An answer that does not read is a failure,
though the status is stored by then. -/
def reportStatus (faults : Faults) (network : String) (patch : Json) (s : Server) :
    Except Failure Unit × Server :=
  match patchStatus faults .network network patch s with
  | (.error e, s) => (.error (.other e.text), s)
  | (.ok body, s) =>
    match NetworkObject.ofJson? body with
    | some _ => (.ok (), s)
    | none => (.error (.other Failure.elided), s)

/-- The questions of a pass about a network. Listing the nodes takes no time. -/
def surroundings (faults : Faults) (network : String) : Surroundings Server :=
  { infrastructure := infrastructure faults
    configMap := configMap faults
    workload := workload faults
    listNodes := fun s =>
      let (answer, s) := controlPlaneNodes faults s
      ({ answer }, s)
    recorded := recorded faults network
    record := record faults network }

end Server

end NetworkRollout
