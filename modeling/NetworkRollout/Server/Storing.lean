import NetworkRollout.Json.LayOver

/-!
# How applied objects are stored

A server may put an object that is applied in the place of the stored one, or merge its fields into
that. One that merges keeps what is its own: the status, which has requests for itself, and metadata
such as the generation.

* `Storing`, `Storing.settle`: the two ways, and the object that is stored.
-/

namespace NetworkRollout

/-- What a server does with an object that is applied. -/
inductive Storing where
  /-- It takes the place of the stored one; only a status stays when the object has none. -/
  | replaces
  /-- Its fields are merged into the stored one, but for those that are the server's own. -/
  | merges
  deriving DecidableEq, Repr, Inhabited

namespace Storing

/-- The metadata that a server keeps itself. -/
def ownMetadata : List String :=
  ["creationTimestamp", "generation", "managedFields", "resourceVersion", "uid"]

/-- Metadata without those that a server keeps itself. -/
def mergeableMetadata (metadata : Json) : Json :=
  .object (metadata.members.filter (·.1 ∉ ownMetadata))

/-- What a server merges of an object: neither a status nor metadata that it keeps itself. -/
def mergeable (object : Json) : Json :=
  let fields := Members.erase "status" object.members
  match fields.get? "metadata" with
  | some metadata => .object (fields.insert "metadata" (mergeableMetadata metadata))
  | none => .object fields

/-- An object in the place of the stored one. -/
def replaced (stored : Option Json) (object : Json) : Json :=
  match stored.bind (Members.get? ·.members "status"), Members.get? object.members "status" with
  | some status, none => .object (Members.insert "status" status object.members)
  | _, _ => object

/-- The object that is stored when an object is applied. Of names that the object gives twice the
first ones count. -/
def settle (storing : Storing) (stored : Option Json) (object : Json) : Json :=
  match storing with
  | replaces => replaced stored object.dedup
  | merges => (stored.getD .null).layOver (mergeable object.dedup)

end Storing

end NetworkRollout
