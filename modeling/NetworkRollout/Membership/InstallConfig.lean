import NetworkRollout.Yaml.Value
import NetworkRollout.Text.Blank
import NetworkRollout.Text.Unsigned

/-!
# The replica count of the installation

The document that a cluster was installed from says how many control-plane members were asked
for, as a number or as text. An absent count, and a text that is no number, count as zero.
-/

namespace NetworkRollout.InstallConfig

open Yaml

def target? (d : Document) : Node → Option Node
  | .alias n => d.anchor? n
  | node => some node

/-- Whether a node is an empty plain scalar, which reads as an empty mapping. -/
def isEmptyPlain : Node → Bool
  | .scalar _ plain text => plain && text = ""
  | _ => false

/-- The text of a key, which is a scalar of any form. -/
def keyText? (d : Document) (key : Node) : Option String :=
  match target? d key with
  | some (.scalar _ _ text) => some text
  | _ => none

/-- The entries of a mapping, under the texts of their keys. -/
def entries? (d : Document) (node : Node) : Option (List (String × Node)) :=
  match target? d node with
  | some (.mapping _ entries) =>
    entries.mapM fun (k, v) => (keyText? d k).map fun name => (name, v)
  | some node => if isEmptyPlain node then some [] else none
  | none => none

/-- The value of a key that is given at most once. -/
def single? (name : String) (entries : List (String × Node)) : Option (Option Node) :=
  match entries.filter (·.1 = name) with
  | [] => some none
  | [(_, v)] => some (some v)
  | _ => none

/-- The value of a key that may be given, unless it is a plain null. A value tagged as null must
be one. -/
def unlessNull? (d : Document) (node : Node) : Option (Option Node) :=
  match target? d node with
  | none => none
  | some (.scalar tag true text) =>
    match tag with
    | some t =>
      if t = ScalarValue.standardTag "null" then
        if ScalarValue.isNullWord text then some none else none
      else some (some (.scalar tag true text))
    | none =>
      if text = "" || ScalarValue.isNullWord text then some none
      else some (some (.scalar tag true text))
  | some node => some (some node)

def optional? (d : Document) (name : String) (node : Node) : Option (Option Node) := do
  match ← single? name (← entries? d node) with
  | none => return none
  | some v => unlessNull? d v

/-- The count that a text writes, zero if it writes none. -/
def countOfText (text : String) : Nat := (Text.u64? (Text.trim text.toList)).getD 0

/-- The count that a node writes: a whole number that is not negative, or a text. -/
def count? : Node → Option Nat
  | .scalar tag plain text =>
    if (localTag? tag).isSome then none
    else
      match ScalarValue.of? tag plain text with
      | some (.int n) => if 0 ≤ n then some n.toNat else none
      | some (.text s) => some (countOfText s)
      | _ => none
  | _ => none

def replicasOf? (d : Document) : Option Nat := do
  match d.root with
  | none => return 0
  | some root =>
    match ← optional? d "controlPlane" root with
    | none => return 0
    | some pool =>
      match ← optional? d "replicas" pool with
      | none => return 0
      | some replicas => count? replicas

/-- The replica count of a text, which must hold one document. -/
def replicas? (text : String) : Option Nat := do
  match ← documents? text.toList with
  | [d] => replicasOf? d
  | _ => none

end NetworkRollout.InstallConfig
