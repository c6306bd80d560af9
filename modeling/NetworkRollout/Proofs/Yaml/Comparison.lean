import NetworkRollout.Yaml.Node

/-!
# Comparing documents

Nodes are compared part by part, so it is decidable whether two documents are the same.

* `Node.same`, `Node.same_iff`: nodes compared.
-/

namespace NetworkRollout.Yaml

namespace Node

mutual

/-- Whether two nodes are the same. -/
def same : Node → Node → Bool
  | .scalar tag plain text, .scalar tag' plain' text' =>
    tag = tag' && plain = plain' && text = text'
  | .sequence tag items, .sequence tag' items' => tag = tag' && sameItems items items'
  | .mapping tag entries, .mapping tag' entries' => tag = tag' && sameEntries entries entries'
  | .alias anchor, .alias anchor' => anchor = anchor'
  | _, _ => false

def sameItems : List Node → List Node → Bool
  | [], [] => true
  | a :: as, b :: bs => same a b && sameItems as bs
  | _, _ => false

def sameEntries : List (Node × Node) → List (Node × Node) → Bool
  | [], [] => true
  | (k, v) :: as, (k', v') :: bs => same k k' && same v v' && sameEntries as bs
  | _, _ => false

end

mutual

theorem same_iff : ∀ a b : Node, same a b = true ↔ a = b
  | .scalar .., b => by cases b <;> simp [same, and_assoc]
  | .sequence _ items, b => by cases b <;> simp [same, sameItems_iff items]
  | .mapping _ entries, b => by cases b <;> simp [same, sameEntries_iff entries]
  | .alias _, b => by cases b <;> simp [same]

theorem sameItems_iff : ∀ as bs : List Node, sameItems as bs = true ↔ as = bs
  | [], bs => by cases bs <;> simp [sameItems]
  | a :: as, bs => by cases bs <;> simp [sameItems, same_iff a, sameItems_iff as]

theorem sameEntries_iff : ∀ as bs : List (Node × Node), sameEntries as bs = true ↔ as = bs
  | [], bs => by cases bs <;> simp [sameEntries]
  | (k, v) :: as, bs => by
    cases bs <;> simp [sameEntries, same_iff k, same_iff v, sameEntries_iff as, Prod.ext_iff]

end

instance : DecidableEq Node := fun a b => decidable_of_iff _ (same_iff a b)

end Node

deriving instance DecidableEq for Document

end NetworkRollout.Yaml
