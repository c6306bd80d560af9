import NetworkRollout.Json.Record
import NetworkRollout.Flow.Settings
import NetworkRollout.Time.Moment

/-!
# Typed fields of stored objects

The fields of metadata have types. A value of the wrong type is refused, null means that the field
is missing, and unknown fields are dropped. Moments are kept up to the second.

* `Leaf.read?`: reads a value of a type and writes it in its normal form.
* `readRecord?`: does so with all fields of a record.
-/

namespace NetworkRollout

namespace TextMap

/-- The texts of an object; the last of a name counts. -/
def ofJson? : Json → Option TextMap
  | .object ms => ms.foldlM (fun m (k, v) => v.text?.map fun s => TextMap.insert k s m) []
  | _ => none

def toJson (m : TextMap) : Json := .object (m.map fun (k, s) => (k, .text s))

end TextMap

inductive Leaf where
  | text
  | number
  | truth
  | moment
  | texts
  | textMap
  | anything
  deriving DecidableEq, Repr

/-- Reads a value of a type and writes it in its normal form. -/
def Leaf.read? : Leaf → Json → Option Json
  | text, j => j.text?.map .text
  | number, j => (Json.i64? j).map .int
  | truth, j => j.bool?.map .bool
  | moment, j => (j.text?.bind Moment.ofText?).map fun m => .text m.secondsText
  | texts, j => (Json.listOf? Json.text? j).map fun l => .array (l.map .text)
  | textMap, j => (TextMap.ofJson? j).map TextMap.toJson
  | anything, j => some j

/-- The fields of a record: name, type, and what stands for a missing one. -/
abbrev RecordType := List (String × Leaf × Option Json)

/-- The fields of the record that are there, in their normal forms. -/
def readFields? (fields : RecordType) (ms : Members) : Option Members := do
  let read ← fields.mapM fun (name, leaf, default) =>
    match ms.get? name with
    | none => some (default.map (name, ·))
    | some .null => some (default.map (name, ·))
    | some j => (leaf.read? j).map fun j => some (name, j)
  return read.filterMap id

def readRecord? (fields : RecordType) : Json → Option Json
  | .object ms => (readFields? fields ms).map .object
  | _ => none

def readRecords? (fields : RecordType) (j : Json) : Option Json :=
  (Json.listOf? (readRecord? fields) j).map .array

end NetworkRollout
