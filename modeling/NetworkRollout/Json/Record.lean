import NetworkRollout.Json.Value

/-!
# Records in JSON

A record is read from an object, by name, or from an array, by position. Unknown members are
skipped. A known name given twice is refused, and so is an array longer than the record. A field
is required, has a default for when it is missing, or is optional, and then null means missing.
-/

namespace NetworkRollout.Json

/-- The given fields of a record, by name. -/
abbrev Fields := List (String × Json)

/-- Whether some name of the list is given twice. -/
def repeats (names : List String) (ms : Members) : Bool :=
  names.any fun name => 1 < (ms.filter (·.1 = name)).length

/-- The fields of a record with the given names, in the order of their declaration. -/
def fields? (names : List String) : Json → Option Fields
  | .object ms => if repeats names ms then none else some ms
  | .array items => if items.length ≤ names.length then some (names.zip items) else none
  | _ => none

namespace Fields

def required (fs : Fields) (name : String) (read : Json → Option α) : Option α :=
  (List.lookup name fs).bind read

/-- A field that has a default when it is missing. -/
def withDefault (fs : Fields) (name : String) (default : α) (read : Json → Option α) :
    Option α :=
  match List.lookup name fs with
  | none => some default
  | some j => read j

/-- A field that may be missing or null. -/
def optional (fs : Fields) (name : String) (read : Json → Option α) : Option (Option α) :=
  match List.lookup name fs with
  | none => some none
  | some .null => some none
  | some j => (read j).map some

end Fields

def listOf? (read : Json → Option α) : Json → Option (List α)
  | .array items => items.mapM read
  | _ => none

/-- A whole number below 2³². -/
def u32? : Json → Option UInt32
  | .int n => if 0 ≤ n ∧ n < UInt32.size then some (UInt32.ofNat n.toNat) else none
  | _ => none

/-- A whole number in the range of signed 64-bit integers. -/
def i64? : Json → Option Int
  | .int n => if Int64.minValue.toInt ≤ n ∧ n ≤ Int64.maxValue.toInt then some n else none
  | _ => none

/-- A whole number in the range of signed 32-bit integers. -/
def i32? : Json → Option Int
  | .int n => if Int32.minValue.toInt ≤ n ∧ n ≤ Int32.maxValue.toInt then some n else none
  | _ => none

/-- A word of a fixed set: a text, or the only name in an object when its value is null. -/
def word? : Json → Option String
  | .text s => some s
  | .object [(s, .null)] => some s
  | _ => none

/-- Members for the fields that are there, in order. -/
def objectOf (members : List (Option (String × Json))) : Json := .object (members.filterMap id)

def always (name : String) (value : Json) : Option (String × Json) := some (name, value)

def whenSome (name : String) (write : α → Json) (value : Option α) : Option (String × Json) :=
  value.map fun v => (name, write v)

def ofList (write : α → Json) (items : List α) : Json := .array (items.map write)

/-- A whole number below 2³². -/
def ofU32 (n : UInt32) : Json := .int n.toNat

end NetworkRollout.Json
