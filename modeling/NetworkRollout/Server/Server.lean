import NetworkRollout.Server.Kind
import NetworkRollout.Server.Storing
import NetworkRollout.Json.MergePatch

/-!
# The API server

The server holds objects and answers requests. Each request may be answered by a fault instead,
and then changes nothing but the log of requests. Successful changes are logged as writes. Which
kinds of objects there are, and what becomes of an object that is applied, differs from server to
server.

* `Serving`: what differs from server to server.
* `Server.serve`: a request with its fault or answer.
* `Server.get`, `list`, `patch`, `patchStatus`, `apply`, `publish`, `discover`: the requests.
-/

namespace NetworkRollout

inductive Verb where
  | get
  | list
  | patch
  | patchStatus
  | apply
  | create
  | discover
  deriving DecidableEq, Repr

/-- A request: a verb on a resource, or on one object of it. -/
structure Request where
  verb : Verb
  /-- The plural of the kind, or an API version to discover. -/
  resource : String
  name : String := ""
  deriving DecidableEq, Repr

structure ApiError where
  code : Nat
  message : String
  deriving DecidableEq, Repr

namespace ApiError

/-- The code that tells that something does not exist. -/
def notFoundCode : Nat := 404

/-- What does not exist. -/
def notFound : ApiError := ⟨notFoundCode, "not found"⟩

def text (e : ApiError) : String := "<api " ++ toString e.code ++ ": " ++ e.message ++ ">"

end ApiError

/-- Which requests fail: by their number from the start, and by what they ask for. -/
abbrev Faults := Nat → Request → Option ApiError

structure Event where
  warning : Bool
  reason : String
  note : String
  regarding : String
  deriving DecidableEq, Repr

inductive Write where
  | patch (resource name : String) (body : Json)
  | patchStatus (resource name : String) (body : Json)
  /-- The namespace is empty for a kind that belongs to the cluster. -/
  | apply (resource namespaceName name : String) (object : Json)
  | event (e : Event)
  deriving BEq, Repr

structure StoredObject where
  kind : Kind
  namespaceName : String
  name : String
  body : Json
  deriving BEq, Repr

namespace StoredObject

/-- Whether this is the object of a kind with a namespace and name. -/
def isAt (o : StoredObject) (kind : Kind) (namespaceName name : String) : Bool :=
  o.kind = kind && o.namespaceName = namespaceName && o.name = name

/-- The body as requests are answered with it: no name is given twice. -/
def content (o : StoredObject) : Json := o.body.dedup

end StoredObject

/-- What differs from server to server. -/
structure Serving where
  /-- The kinds of objects that there are. -/
  kinds : List Kind := Kind.all
  /-- What becomes of an object that is applied. -/
  storing : Storing := .replaces
  /-- A plural tells which kind a request is about. -/
  plurals : (kinds.map Kind.plural).Nodup := by decide
  /-- Every server has daemon sets. -/
  daemonSets : Kind.find? Kind.daemonSet.apiVersion Kind.daemonSet.name kinds =
    some .daemonSet := by decide
  deriving Repr

namespace Serving

/-- A server that does not say what is different. -/
def usual : Serving := {}

instance : Inhabited Serving := ⟨usual⟩

/-- The kind of an API version with a name. -/
def kind? (serving : Serving) (apiVersion name : String) : Option Kind :=
  Kind.find? (Kind.plainVersion apiVersion) name serving.kinds

end Serving

structure Server where
  objects : List StoredObject := []
  writes : List Write := []
  /-- All requests so far. -/
  requests : List Request := []
  serving : Serving := .usual
  deriving Repr, Inhabited

namespace Server

/-! ## Stored objects -/

def find? (s : Server) (kind : Kind) (namespaceName name : String) : Option Json :=
  (s.objects.find? (·.isAt kind namespaceName name)).map (·.content)

/-- Stores an object in place of the one with its kind, namespace and name. -/
def store (s : Server) (o : StoredObject) : Server :=
  if s.objects.any (·.isAt o.kind o.namespaceName o.name) then
    { s with
      objects := s.objects.map fun p => if p.isAt o.kind o.namespaceName o.name then o else p }
  else { s with objects := s.objects ++ [o] }

def remove (s : Server) (kind : Kind) (namespaceName name : String) : Server :=
  { s with objects := s.objects.filter (!·.isAt kind namespaceName name) }

def log (s : Server) (w : Write) : Server := { s with writes := s.writes ++ [w] }

/-! ## Requests -/

abbrev Call (α : Type) := Server → Except ApiError α × Server

/-- Serves a request: by a fault if there is one, else by the given answer. -/
def serve (faults : Faults) (r : Request) (answer : Call α) : Call α := fun s =>
  let received := { s with requests := s.requests ++ [r] }
  match faults s.requests.length r with
  | some e => (.error e, received)
  | none => answer received

def get (faults : Faults) (kind : Kind) (namespaceName name : String) : Call Json :=
  serve faults ⟨.get, kind.plural, name⟩ fun s =>
    match s.find? kind namespaceName name with
    | some body => (.ok body, s)
    | none => (.error .notFound, s)

/-- Reads an object that may not exist. -/
def getIfExists (faults : Faults) (kind : Kind) (namespaceName name : String) :
    Call (Option Json) := fun s =>
  match get faults kind namespaceName name s with
  | (.ok body, s) => (.ok (some body), s)
  | (.error e, s) => if e.code = ApiError.notFoundCode then (.ok none, s) else (.error e, s)

def hasLabel (label : String) (body : Json) : Bool :=
  (Members.get? (body.path ["metadata", "labels"]).members label).isSome

/-- Reads the objects of a kind that have a label, in the order of their names. -/
def list (faults : Faults) (kind : Kind) (label : String) : Call (List Json) :=
  serve faults ⟨.list, kind.plural, ""⟩ fun s =>
    let found := s.objects.filter fun o => o.kind = kind && hasLabel label o.content
    (.ok ((found.mergeSort fun a b => a.name ≤ b.name).map (·.content)), s)

/-- Merges a patch into a stored object that must exist, and answers with the object. -/
def mergeInto (kind : Kind) (name : String) (patch : Json) : Call Json := fun s =>
  match s.find? kind "" name with
  | some body => (.ok (body.merge patch), s.store ⟨kind, "", name, body.merge patch⟩)
  | none => (.error .notFound, s)

/-- Merges a patch into an object of the cluster. -/
def patch (faults : Faults) (kind : Kind) (name : String) (body : Json) : Call Json :=
  serve faults ⟨.patch, kind.plural, name⟩ fun s =>
    mergeInto kind name body (s.log (.patch kind.plural name body))

/-- Merges a patch into the status of an object of the cluster. -/
def patchStatus (faults : Faults) (kind : Kind) (name : String) (body : Json) : Call Json :=
  serve faults ⟨.patchStatus, kind.plural, name⟩ fun s =>
    mergeInto kind name body (s.log (.patchStatus kind.plural name body))

def apply (faults : Faults) (kind : Kind) (namespaceName name : String) (object : Json) :
    Call Unit :=
  serve faults ⟨.apply, kind.plural, name⟩ fun s =>
    let body := s.serving.storing.settle (s.find? kind namespaceName name) object
    (.ok (), (s.store ⟨kind, namespaceName, name, body⟩).log
      (.apply kind.plural namespaceName name object))

def publish (faults : Faults) (e : Event) : Call Unit :=
  serve faults ⟨.create, "events", ""⟩ fun s => (.ok (), s.log (.event e))

/-- Finds the kind of an API version with a name. -/
def discover (faults : Faults) (apiVersion name : String) : Call Kind :=
  serve faults ⟨.discover, Kind.plainVersion apiVersion, ""⟩ fun s =>
    match s.serving.kind? apiVersion name with
    | some kind => (.ok kind, s)
    | none => (.error .notFound, s)

end Server

end NetworkRollout
