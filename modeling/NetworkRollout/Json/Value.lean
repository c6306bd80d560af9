import NetworkRollout.Number.Binary64

/-!
# JSON values

One type for every value that a request body, a stored object or a manifest can hold. Whole
numbers and doubles are apart, because a count must be written as a whole number. The members of
an object keep their written order, and a look-up finds the first of a name.
-/

namespace NetworkRollout

/-- A JSON value. `unreadable` stands for a literal that follows the grammar and denotes nothing
(a number beyond the doubles, half of a surrogate pair): it can be skipped and not be read. -/
inductive Json where
  | null
  | bool (b : Bool)
  | int (n : Int)
  | float (x : Binary64)
  | text (s : String)
  | array (items : List Json)
  | object (members : List (String × Json))
  | unreadable
  deriving Inhabited, Repr

mutual

def Json.beq : Json → Json → Bool
  | .null, .null => true
  | .bool a, .bool b => a == b
  | .int a, .int b => a == b
  | .float a, .float b => a == b
  | .text a, .text b => a == b
  | .array a, .array b => beqItems a b
  | .object a, .object b => beqMembers a b
  | .unreadable, .unreadable => true
  | _, _ => false

def Json.beqItems : List Json → List Json → Bool
  | [], [] => true
  | a :: as, b :: bs => a.beq b && beqItems as bs
  | _, _ => false

def Json.beqMembers : List (String × Json) → List (String × Json) → Bool
  | [], [] => true
  | (j, a) :: as, (k, b) :: bs => j == k && a.beq b && beqMembers as bs
  | _, _ => false

end

instance : BEq Json := ⟨Json.beq⟩

/-- The members of an object, in order. -/
abbrev Members := List (String × Json)

namespace Members

/-- The value of the first member with the name. -/
def get? (ms : Members) (name : String) : Option Json := ms.lookup name

/-- The value of a member, null when there is none. -/
def getD (ms : Members) (name : String) : Json := (ms.get? name).getD .null

/-- Gives the first member with the name this value, or adds it at the end. -/
def insert (name : String) (value : Json) : Members → Members
  | [] => [(name, value)]
  | (k, v) :: rest => if k = name then (k, value) :: rest else (k, v) :: insert name value rest

def erase (name : String) (ms : Members) : Members := ms.filter (·.1 ≠ name)

end Members

mutual

/-- The value with the first member of each name only. What is in lists stays as it is. -/
def Json.dedup : Json → Json
  | .object ms => .object (dedupMembers ms)
  | j => j

def Json.dedupMembers : Members → Members
  | [] => []
  | (name, value) :: rest => (name, value.dedup) :: (dedupMembers rest).erase name

end

namespace Json

/-- The members of an object, none of any other value. -/
def members : Json → Members
  | .object ms => ms
  | _ => []

/-- The named member of an object, null when there is none. -/
def field (j : Json) (name : String) : Json := Members.getD j.members name

/-- The value at the end of a path of names, null when the path breaks off. -/
def path (j : Json) (names : List String) : Json := names.foldl field j

def text? : Json → Option String
  | .text s => some s
  | _ => none

def bool? : Json → Option Bool
  | .bool b => some b
  | _ => none

def int? : Json → Option Int
  | .int n => some n
  | _ => none

def array? : Json → Option (List Json)
  | .array items => some items
  | _ => none

def object? : Json → Option Members
  | .object ms => some ms
  | _ => none

/-- Whether a value is null. -/
def isNull : Json → Bool
  | .null => true
  | _ => false

end Json

end NetworkRollout
