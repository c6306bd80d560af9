import NetworkRollout.Object.Object
import NetworkRollout.Yaml.Value
import NetworkRollout.Failure

/-!
# Objects in YAML documents

Each document of a manifest that is not null is a mapping and gives an object. The tags of a
document and of its metadata do not count; elsewhere a tag is refused. Keys are texts. Numbers that
are not finite become null.
-/

namespace NetworkRollout

namespace Yaml.Value

/-- The value without its tags. -/
def untag : Value → Value
  | .tagged _ v => v.untag
  | v => v

mutual

/-- The value as JSON; a tag or a key that is no text is refused. -/
def toJson? : Value → Option Json
  | .null => some .null
  | .bool b => some (.bool b)
  | .int n => some (.int n)
  | .float x => some (if x.isFinite then .float x else .null)
  | .text s => some (.text s)
  | .sequence items => (itemsToJson? items).map .array
  | .mapping entries => (entriesToJson? entries).map .object
  | .tagged _ _ => none

def itemsToJson? : List Value → Option (List Json)
  | [] => some []
  | v :: vs => do return (← toJson? v) :: (← itemsToJson? vs)

def entriesToJson? : List (Value × Value) → Option Members
  | [] => some []
  | (.text k, v) :: es => do return (k, ← toJson? v) :: (← entriesToJson? es)
  | _ => none

/-- The value as JSON, its tags dropped at all depths; a key that is no text is refused. -/
def toPlainJson? : Value → Option Json
  | .tagged _ v => toPlainJson? v
  | .sequence items => (itemsToPlainJson? items).map .array
  | .mapping entries => (entriesToPlainJson? entries).map .object
  | v => toJson? v

/-- The items of a sequence as JSON without tags. -/
def itemsToPlainJson? : List Value → Option (List Json)
  | [] => some []
  | v :: vs => do return (← toPlainJson? v) :: (← itemsToPlainJson? vs)

/-- The entries of a mapping as members without tags. -/
def entriesToPlainJson? : List (Value × Value) → Option Members
  | [] => some []
  | (k, v) :: es => do
    match k.untag with
    | .text k => return (k, ← toPlainJson? v) :: (← entriesToPlainJson? es)
    | _ => none

end

end Yaml.Value

namespace Object

/-- The metadata of a document as JSON; unknown fields are dropped unread. -/
def metadataOfYaml? (v : Yaml.Value) : Option Json :=
  match v.untag with
  | .null => some .null
  | .mapping entries => do
    let known ← entries.mapM fun (k, v) =>
      match k.untag with
      | .text k =>
        if k ∈ Metadata.fieldNames then v.toPlainJson?.map fun j => some (k, j) else some none
      | _ => none
    return .object (known.filterMap id)
  | _ => none

def ofYaml? (v : Yaml.Value) : Option Object :=
  match v.untag with
  | .mapping entries => do
    let members ← entries.mapM fun (k, v) =>
      match k.untag with
      | .text "metadata" => (metadataOfYaml? v).map ("metadata", ·)
      | .text k => v.toJson?.map (k, ·)
      | _ => none
    ofMembers? members
  | _ => none

/-- The objects of the documents that are not null. -/
def ofDocuments? (documents : List Yaml.Value) : Option (List Object) :=
  (documents.filter fun v => v.untag != .null).mapM ofYaml?

def parseManifest (source text : String) : Except Failure (List Object) :=
  match (Yaml.values? text).bind ofDocuments? with
  | some objects => .ok objects
  | none => .error (.manifest (Failure.located source))

end Object

end NetworkRollout
