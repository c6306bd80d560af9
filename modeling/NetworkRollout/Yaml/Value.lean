import NetworkRollout.Yaml.Node
import NetworkRollout.Number.Binary64

/-!
# The values of YAML documents

Plain scalars denote nulls, truth values, whole numbers and doubles where they have that form,
and text otherwise; quoted scalars are text. The standard tags override the form, other tags stay
with the value. Aliases are replaced by the nodes they name, within limits on the depth and on
the number of replacements.
-/

namespace NetworkRollout.Yaml

inductive Value where
  | null
  | bool (b : Bool)
  | int (n : Int)
  | float (x : Binary64)
  | text (s : String)
  | sequence (items : List Value)
  | mapping (entries : List (Value × Value))
  | tagged (tag : String) (value : Value)
  deriving Inhabited, Repr

mutual

def Value.beq : Value → Value → Bool
  | .null, .null => true
  | .bool a, .bool b => a == b
  | .int a, .int b => a == b
  | .float a, .float b => a == b
  | .text a, .text b => a == b
  | .sequence a, .sequence b => beqItems a b
  | .mapping a, .mapping b => beqEntries a b
  | .tagged s a, .tagged t b => s == t && a.beq b
  | _, _ => false

def Value.beqItems : List Value → List Value → Bool
  | [], [] => true
  | a :: as, b :: bs => a.beq b && beqItems as bs
  | _, _ => false

def Value.beqEntries : List (Value × Value) → List (Value × Value) → Bool
  | [], [] => true
  | (j, a) :: as, (k, b) :: bs => j.beq k && a.beq b && beqEntries as bs
  | _, _ => false

end

instance : BEq Value := ⟨Value.beq⟩

/-- What a scalar denotes. `tooWide` is a whole number beyond 64 bits, which no value can be. -/
inductive ScalarValue where
  | null
  | bool (b : Bool)
  | int (n : Int)
  | tooWide
  | float (x : Binary64)
  | text (s : String)
  deriving DecidableEq, Repr

namespace ScalarValue

/-! ## Forms of plain scalars -/

/-- The words for null. -/
def isNullWord (s : String) : Bool := s ∈ ["null", "Null", "NULL", "~"]

def boolWord? (s : String) : Option Bool :=
  if s ∈ ["true", "True", "TRUE"] then some true
  else if s ∈ ["false", "False", "FALSE"] then some false
  else none

def digitIn? (base : Nat) (c : Char) : Option Nat :=
  (Text.hexDigit? c).filter (· < base)

/-- The number of a non-empty row of digits in a base. -/
def numberIn? (base : Nat) (s : List Char) : Option Nat :=
  if s.isEmpty then none
  else s.foldl (fun acc c => do return (← acc) * base + (← digitIn? base c)) (some 0)

/-- The bases that are marked with a letter behind a zero. -/
def markedBase? : List Char → Option (Nat × List Char)
  | '0' :: 'x' :: s => some (16, s)
  | '0' :: 'o' :: s => some (8, s)
  | '0' :: 'b' :: s => some (2, s)
  | _ => none

def dropSign : List Char → List Char
  | '+' :: s => s
  | '-' :: s => s
  | s => s

/-- Digits that start with a zero and are no number: `012` is text. -/
def isPaddedDigits (s : List Char) : Bool :=
  match dropSign s with
  | '0' :: c :: rest => (c :: rest).all Char.isDigit
  | _ => false

/-- A whole number that is not negative. -/
def unsigned? (s : List Char) : Option Nat :=
  let body := match s with
    | '+' :: rest => rest
    | _ => s
  match markedBase? body with
  | some (base, digits) => numberIn? base digits
  | none => if isPaddedDigits s then none else numberIn? 10 body

/-- The absolute value of a whole number with a minus sign. -/
def negative? (s : List Char) : Option Nat :=
  match s with
  | '-' :: body =>
    match markedBase? body with
    | some (base, digits) => numberIn? base digits
    | none => if isPaddedDigits s then none else numberIn? 10 body
  | _ => none

/-- A whole number: in the range of 64 bits, beyond it up to 128 bits, or none. -/
def whole? (s : List Char) : Option ScalarValue :=
  match unsigned? s, negative? s with
  | some n, _ =>
    if n < UInt64.size then some (.int n) else if n < twoTo 128 then some .tooWide else none
  | none, some n =>
    if n ≤ twoTo 63 then some (.int (-n)) else if n ≤ twoTo 127 then some .tooWide else none
  | none, none => none

/-- The digits of a decimal with a point and their number behind it; at least one digit. -/
def decimalDigits? (s : List Char) : Option (List Char × Nat) :=
  let whole := s.takeWhile Char.isDigit
  match s.dropWhile Char.isDigit with
  | [] => if whole.isEmpty then none else some (whole, 0)
  | '.' :: fraction =>
    if fraction.all Char.isDigit && !(whole.isEmpty && fraction.isEmpty) then
      some (whole ++ fraction, fraction.length)
    else none
  | _ => none

/-- The exponent of a decimal: a sign that may be missing and at least one digit. -/
def exponentValue? (s : List Char) : Option Int :=
  let digits := dropSign s
  if digits.isEmpty || !digits.all Char.isDigit then none
  else
    let n : Int := Nat.ofDigitChars 10 digits 0
    some (if s.head? = some '-' then -n else n)

/-- A decimal without sign, as the double nearest to it. -/
def decimal? (negative : Bool) (s : List Char) : Option Binary64 := do
  let isMark (c : Char) : Bool := c = 'e' || c = 'E'
  let (digits, places) ← decimalDigits? (s.takeWhile (!isMark ·))
  let exponent ← match s.dropWhile (!isMark ·) with
    | [] => some 0
    | _ :: rest => exponentValue? rest
  return .ofDecimal negative (Nat.ofDigitChars 10 digits 0) (exponent - places)

/-- A double: a word for infinity or for no number, or a decimal that is finite. -/
def double? (s : List Char) : Option Binary64 :=
  let infinities := [".inf", ".Inf", ".INF"].map String.toList
  let body := match s with
    | '+' :: rest => rest
    | _ => s
  if body ∈ infinities then some (.infinity false)
  else if s.head? = some '-' ∧ s.drop 1 ∈ infinities then some (.infinity true)
  else if s ∈ [".nan", ".NaN", ".NAN"].map String.toList then some .notANumber
  else
    let x := match s with
      | '+' :: rest => decimal? false rest
      | '-' :: rest => decimal? true rest
      | _ => decimal? false s
    x.filter Binary64.isFinite

/-- What a plain scalar without tag denotes. -/
def ofPlain (s : String) : ScalarValue :=
  if s = "" || isNullWord s then .null
  else
    match boolWord? s with
    | some b => .bool b
    | none =>
      match whole? s.toList with
      | some v => v
      | none =>
        if isPaddedDigits s.toList then .text s
        else
          match double? s.toList with
          | some x => .float x
          | none => .text s

/-! ## Tags -/

def standardTag (type : String) : String := "tag:yaml.org,2002:" ++ type

/-- What a scalar denotes. A standard tag demands its form; any other tag that is no exclamation
mark makes it text. -/
def of? (tag : Option String) (plain : Bool) (s : String) : Option ScalarValue :=
  match tag with
  | some t =>
    if t = standardTag "bool" then (boolWord? s).map .bool
    else if t = standardTag "int" then whole? s.toList
    else if t = standardTag "float" then (double? s.toList).map .float
    else if t = standardTag "null" then if isNullWord s then some .null else none
    else if t.toList.head? = some '!' && plain then some (ofPlain s)
    else some (.text s)
  | none => if plain then some (ofPlain s) else some (.text s)

end ScalarValue

/-- The name of a tag of the document's own: what follows its exclamation mark, or the mark itself
when nothing does. -/
def localTag? : Option String → Option String
  | some t =>
    match t.toList with
    | ['!'] => some t
    | '!' :: name => some (String.ofList name)
    | _ => none
  | none => none

/-- How many collections may lie inside one another. -/
def depthLimit : Nat := 128

/-- A step that counts the aliases replaced so far and fails beyond a limit. -/
abbrev Expand := StateT Nat Option

namespace Document

/-- How many aliases may be replaced in reading the document. -/
def aliasLimit (d : Document) : Nat := d.size * 100

/-- The node that a node stands for: itself, or what the alias names. -/
def expand (d : Document) : Node → Expand Node
  | .alias n => do
    let used ← get
    if d.aliasLimit < used + 1 then failure
    else
      set (used + 1)
      match d.anchor? n with
      | some node => return node
      | none => failure
  | node => return node

end Document

/-- The value of a scalar. Numbers wider than 64 bits have none. -/
def Value.ofScalar? : ScalarValue → Option Value
  | .null => some .null
  | .bool b => some (.bool b)
  | .int n => some (.int n)
  | .tooWide => none
  | .float x => some (.float x)
  | .text s => some (.text s)

/-- Whether some value of the list occurs twice. -/
def repeatsKey : List Value → Bool
  | [] => false
  | k :: ks => ks.any (· == k) || repeatsKey ks

namespace Document

/-- The value of a node. The keys of a mapping are different from one another. -/
def value (d : Document) : Nat → Node → Expand Value
  | depth, n => do
    let node ← d.expand n
    let wrap (tag : Option String) (v : Value) : Value :=
      match localTag? tag with
      | some name => .tagged name v
      | none => v
    match node, depth with
    | .scalar tag plain s, _ =>
      let own := (localTag? tag).isSome
      match (ScalarValue.of? (if own then none else tag) plain s).bind Value.ofScalar? with
      | some v => return wrap tag v
      | none => failure
    | .sequence tag items, depth + 1 => return wrap tag (.sequence (← items.mapM (d.value depth)))
    | .mapping tag entries, depth + 1 => do
      let entries ← entries.mapM fun (k, v) => do
        return (← d.value depth k, ← d.value depth v)
      if repeatsKey (entries.map (·.1)) then failure
      else return wrap tag (.mapping entries)
    | _, _ => failure

/-- The value of a document; null when it has no root. -/
def value? (d : Document) : Option Value :=
  match d.root with
  | none => some .null
  | some node => ((d.value depthLimit node).run 0).map (·.1)

end Document

def values? (text : String) : Option (List Value) := do
  (← documents? text.toList).mapM Document.value?

end NetworkRollout.Yaml
