import NetworkRollout.Object.Metadata

/-!
# Stored objects

An object has a type, metadata and further data. It has a type when its API version and its kind
are both texts. Otherwise the one that comes first is dropped; the other one is dropped too, unless
already the first one is no text.

* `Object`: an object of any kind.
* `Object.ofJson?`, `Object.toJson`: its form in JSON.
-/

namespace NetworkRollout

structure ObjectType where
  apiVersion : String
  kind : String
  deriving DecidableEq, Repr, Inhabited

/-- The group of an API version: what is in front of the last slash. -/
def ObjectType.group (t : ObjectType) : String :=
  let behind := t.apiVersion.toList.reverse.dropWhile (· ≠ '/')
  String.ofList (behind.drop 1).reverse

structure Object where
  type : Option ObjectType := none
  metadata : Metadata := {}
  data : Members := []
  deriving BEq, Repr, Inhabited

namespace Object

/-- The type that members give, in their order, and the members that are left. -/
def splitType (ms : Members) : Option ObjectType × Members :=
  match ms.filter fun m => m.1 = "apiVersion" || m.1 = "kind" with
  | [] => (none, ms)
  | [(name, _)] => (none, ms.erase name)
  | (first, a) :: (_, b) :: _ =>
    let rest := (ms.erase "apiVersion").erase "kind"
    match a, b with
    | .text a, .text b =>
      (some (if first = "kind" then ⟨b, a⟩ else ⟨a, b⟩), rest)
    | .text _, _ => (none, rest)
    | _, _ => (none, ms.erase first)

/-- The object that members give, in their order. -/
def ofMembers? (ms : Members) : Option Object := do
  let (type, rest) := splitType ms
  return { type, metadata := ← Metadata.ofJson? (ms.getD "metadata"), data := rest.erase "metadata" }

def sortMembers (ms : Members) : Members := ms.mergeSort fun a b => a.1 ≤ b.1

/-- Reads an object. Its members count in the order of their names. -/
def ofJson? : Json → Option Object
  | .object ms => ofMembers? (sortMembers ms)
  | _ => none

def toJson (o : Object) : Json :=
  let type := match o.type with
    | some t => [("apiVersion", .text t.apiVersion), ("kind", .text t.kind)]
    | none => []
  .object (type ++ ("metadata", o.metadata.toJson) :: o.data)

/-- The group of an object, empty without a type. -/
def group (o : Object) : String := (o.type.map (·.group)).getD ""

/-- The kind of an object, empty without a type. -/
def kind (o : Object) : String := (o.type.map (·.kind)).getD ""

/-- A name of an object: its own, or else the one that names are generated from. -/
def anyName (o : Object) : String := (o.metadata.name.or o.metadata.generateName).getD ""

def isWorkload (o : Object) (name : String) : Bool :=
  o.group = "apps" && o.kind = "DaemonSet" && o.metadata.name = some name

/-- Whether two objects have the same group, kind, namespace and name. -/
def sameIdentity (a b : Object) : Bool :=
  a.group = b.group && a.kind = b.kind && a.metadata.namespaceName = b.metadata.namespaceName
    && a.metadata.name = b.metadata.name

end Object

end NetworkRollout
