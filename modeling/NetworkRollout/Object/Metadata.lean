import NetworkRollout.Object.Leaf

/-!
# Metadata of stored objects

What every stored object carries: its name and namespace, annotations, and the marks of the
server.
-/

namespace NetworkRollout

structure Metadata where
  name : Option String := none
  namespaceName : Option String := none
  generateName : Option String := none
  annotations : Option TextMap := none
  generation : Option Int := none
  resourceVersion : Option String := none
  /-- Which fields are owned by whom. -/
  managedFields : Option Json := none
  /-- The other fields, in their normal forms. -/
  others : Members := []
  deriving BEq, Repr, Inhabited

namespace Metadata

/-- The fields that the operator does not look at. -/
def otherFields : RecordType :=
  [("creationTimestamp", .moment, none), ("deletionGracePeriodSeconds", .number, none),
    ("deletionTimestamp", .moment, none), ("finalizers", .texts, none),
    ("labels", .textMap, none), ("selfLink", .text, none), ("uid", .text, none)]

def ownerFields : RecordType :=
  let empty := some (.text "")
  [("apiVersion", .text, empty), ("blockOwnerDeletion", .truth, none),
    ("controller", .truth, none), ("kind", .text, empty), ("name", .text, empty),
    ("uid", .text, empty)]

/-- The fields of an entry about the owner of fields. -/
def managedFieldFields : RecordType :=
  [("apiVersion", .text, none), ("fieldsType", .text, none), ("fieldsV1", .anything, none),
    ("manager", .text, none), ("operation", .text, none), ("subresource", .text, none),
    ("time", .moment, none)]

def fieldNames : List String :=
  ["name", "namespace", "generateName", "annotations", "generation", "resourceVersion",
    "managedFields", "ownerReferences"] ++ otherFields.map (·.1)

def ofMembers? (ms : Members) : Option Metadata := do
  let text (name : String) : Option (Option String) := Json.Fields.optional ms name Json.text?
  let owners ← Json.Fields.optional ms "ownerReferences" (readRecords? ownerFields)
  let others ← readFields? otherFields ms
  return {
    name := ← text "name"
    namespaceName := ← text "namespace"
    generateName := ← text "generateName"
    annotations := ← Json.Fields.optional ms "annotations" TextMap.ofJson?
    generation := ← Json.Fields.optional ms "generation" Json.i64?
    resourceVersion := ← text "resourceVersion"
    managedFields := ← Json.Fields.optional ms "managedFields" (readRecords? managedFieldFields)
    others := others ++ (owners.map fun o => ("ownerReferences", o)).toList }

/-- Reads metadata; null stands for none at all. -/
def ofJson? : Json → Option Metadata
  | .null => some {}
  | .object ms => ofMembers? ms
  | _ => none

def toJson (m : Metadata) : Json :=
  let text (name : String) := Json.whenSome name Json.text
  .object
    (([text "name" m.name, text "namespace" m.namespaceName, text "generateName" m.generateName,
        Json.whenSome "annotations" TextMap.toJson m.annotations,
        Json.whenSome "generation" Json.int m.generation,
        text "resourceVersion" m.resourceVersion,
        Json.whenSome "managedFields" id m.managedFields].filterMap id) ++ m.others)

def annotation? (m : Metadata) (key : String) : Option String := m.annotations.bind (·.get? key)

def annotate (m : Metadata) (key value : String) : Metadata :=
  { m with annotations := some ((m.annotations.getD []).insert key value) }

end Metadata

end NetworkRollout
