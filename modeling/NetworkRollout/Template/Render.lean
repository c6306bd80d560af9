import NetworkRollout.Template.Node
import NetworkRollout.Text.Upper

/-!
# Rendering templates

A template is rendered from the values of its variables. A name that has no value may be asked
about and given a default; it cannot be written, tested, compared or negated. Texts are written as
they are and never read as templates again.

* `Value`: the values of expressions.
* `render?`: the text of a template.
-/

namespace NetworkRollout.Template

inductive Value where
  /-- The value of an unknown name or member. -/
  | unknown
  /-- The value of a choice that has no second part. -/
  | nothing
  | bool (b : Bool)
  | number (n : Int)
  | text (s : String)
  | list (items : List Value)
  deriving Repr, Inhabited

/-- The values of names; the first of a name counts. -/
abbrev Variables := List (String × Value)

namespace Value

def isKnown : Value → Bool
  | unknown => false
  | nothing => false
  | _ => true

/-- The value, which must not be unknown. -/
def known? : Value → Option Value
  | unknown => none
  | v => some v

def truth? : Value → Option Bool
  | unknown => none
  | nothing => some false
  | bool b => some b
  | number n => some (n ≠ 0)
  | text s => some (s ≠ "")
  | list items => some (!items.isEmpty)

def number? : Value → Option Int
  | bool b => some (if b then 1 else 0)
  | number n => some n
  | _ => none

/-- The form of a character between quotes: quotes, backslashes and control characters are
escaped. -/
def escaped (c : Char) : List Char :=
  if c = '"' || c = '\\' then ['\\', c]
  else if c = '\n' then ['\\', 'n']
  else if c = '\r' then ['\\', 'r']
  else if c = '\t' then ['\\', 't']
  else if c.toNat = 0 then ['\\', '0']
  else if c.toNat < 0x20 || 0x7F ≤ c.toNat && c.toNat < 0xA0 then
    '\\' :: 'u' :: '\x7b' :: Nat.toDigits 16 c.toNat ++ ['\x7d']
  else [c]

def quoted (s : String) : String := String.ofList ('"' :: s.toList.flatMap escaped ++ ['"'])

mutual

def written : Value → String
  | unknown => ""
  | nothing => ""
  | bool b => if b then "True" else "False"
  | number n => toString n
  | text s => s
  | list items => "[" ++ ", ".intercalate (writtenItems items) ++ "]"

def writtenItems : List Value → List String
  | [] => []
  | text s :: vs => quoted s :: writtenItems vs
  | v :: vs => v.written :: writtenItems vs

end

mutual

/-- Whether two values are equal. Truth values are equal to the numbers one and zero. -/
def same : Value → Value → Bool
  | text a, text b => a = b
  | list as, list bs => sameItems as bs
  | nothing, nothing => true
  | a, b =>
    match a.number?, b.number? with
    | some m, some n => m = n
    | _, _ => false

def sameItems : List Value → List Value → Bool
  | [], [] => true
  | a :: as, b :: bs => a.same b && sameItems as bs
  | _, _ => false

end

def items? : Value → Option (List Value)
  | nothing => some []
  | text s => some (s.toList.map fun c => .text c.toString)
  | list items => some items
  | _ => none

def occurs (part : List Char) : List Char → Bool
  | [] => part.isEmpty
  | c :: cs => part.isPrefixOf (c :: cs) || occurs part cs

def contained? (v : Value) : Value → Option Bool
  | nothing => some false
  | text s => some (occurs v.written.toList s.toList)
  | list items => some (items.any (·.same v))
  | _ => none

/-- The item at a place, counted from the end when the place is negative. -/
def at? (items : List Value) (index : Int) : Option Value :=
  let place := if index < 0 then index + items.length else index
  if 0 ≤ place then items[place.toNat]? else none

def subscript? (v index : Value) : Option Value :=
  match v with
  | unknown => none
  | text _ | list _ =>
    some ((index.number?.bind (at? (v.items?.getD []) ·)).getD .unknown)
  | _ => some .unknown

def operate? (op : Operator) (a b : Value) : Option Value :=
  match op with
  | .equal => do return .bool ((← a.known?).same (← b.known?))
  | .contained => (a.contained? b).map .bool
  | .joined => some (.text (a.written ++ b.written))

/-- The value or, if there is none, a default; when asked, also if the value counts as false. -/
def orElse? (v : Value) : List Value → Option Value
  | [] => some (if v.isKnown then v else .text "")
  | [d] => some (if v.isKnown then v else d)
  | [d, .bool lax] => some (if v.isKnown && !(lax && v.truth? = some false) then v else d)
  | _ => none

def filter? (name : String) (v : Value) (arguments : List Value) : Option Value :=
  match name, arguments with
  | "upper", [] => do return .text (Text.upper (← v.known?).written)
  | "length", [] =>
    match v with
    | text s => some (.number s.length)
    | list items => some (.number items.length)
    | _ => none
  | "default", _ => v.orElse? arguments
  | _, _ => none

def test? (name : String) (v : Value) (arguments : List Value) : Option Bool :=
  match name, arguments with
  | "defined", [] => some v.isKnown
  | "undefined", [] => some !v.isKnown
  | _, _ => none

end Value

namespace Expression

mutual

def value? (vars : Variables) : Expression → Option Value
  | .name s => some ((vars.lookup s).getD .unknown)
  | .text s => some (.text s)
  | .number n => some (.number n)
  | .truth b => some (.bool b)
  | .list items => (values? vars items).map .list
  | .choice condition yes no => do
    if ← (← value? vars condition).truth? then value? vars yes
    else otherwise? vars no
  | .either a b => do
    let v ← value? vars a
    if ← v.truth? then return v else value? vars b
  | .both a b => do
    let v ← value? vars a
    if ← v.truth? then value? vars b else return v
  | .negation a => do return .bool !(← (← value? vars a).truth?)
  | .minus a => do
    match ← value? vars a with
    | .number n => return .number (-n)
    | _ => none
  | .operation op a b => do
    let left ← value? vars a
    let right ← value? vars b
    Value.operate? op left right
  | .member a _ => do
    let _ ← (← value? vars a).known?
    return .unknown
  | .subscript a index => do
    let v ← value? vars a
    v.subscript? (← value? vars index)
  | .call _ _ => none
  | .filter f a arguments => do
    let v ← value? vars a
    v.filter? f (← values? vars arguments)
  | .test t a arguments => do
    let v ← value? vars a
    return .bool (← v.test? t (← values? vars arguments))

def otherwise? (vars : Variables) : Option Expression → Option Value
  | some e => value? vars e
  | none => some .nothing

def values? (vars : Variables) : List Expression → Option (List Value)
  | [] => some []
  | e :: es => do return (← value? vars e) :: (← values? vars es)

end

end Expression

/-- The variables while a template is rendered: those of each open loop before the outer ones. -/
abbrev Scopes := List Variables

namespace Scopes

/-- All variables, the innermost first. -/
def all (scopes : Scopes) : Variables := scopes.flatten

def assign (scopes : Scopes) (name : String) (v : Value) : Scopes :=
  match scopes with
  | [] => [[(name, v)]]
  | scope :: outer => ((name, v) :: scope) :: outer

end Scopes

namespace Node

def loop? (body : Scopes → Option (List Char × Scopes)) (name : String) :
    List Value → Scopes → Option (List Char)
  | [], _ => some []
  | v :: vs, scopes => do
    let (s, scopes) ← body (scopes.assign name v)
    return s ++ (← loop? body name vs scopes)

mutual

def render? : Node → Scopes → Option (List Char × Scopes)
  | .text s, scopes => some (s, scopes)
  | .output e, scopes => do
    let v ← (← e.value? scopes.all).known?
    return (v.written.toList, scopes)
  | .branch test yes no, scopes => do
    if ← (← test.value? scopes.all).truth? then renderAll? yes scopes else renderAll? no scopes
  | .each name items body empty, scopes => do
    match ← (← items.value? scopes.all).items? with
    | [] => renderAll? empty scopes
    | vs => return (← loop? (renderAll? body) name vs ([] :: scopes), scopes)
  | .assign name e, scopes => do return ([], scopes.assign name (← e.value? scopes.all))
  | .capture name body, scopes => do
    let (s, _) ← renderAll? body ([] :: scopes)
    return ([], scopes.assign name (.text (String.ofList s)))

/-- The text of nodes one after another and the scopes behind them. -/
def renderAll? : List Node → Scopes → Option (List Char × Scopes)
  | [], scopes => some ([], scopes)
  | n :: ns, scopes => do
    let (s, scopes) ← render? n scopes
    let (t, scopes) ← renderAll? ns scopes
    return (s ++ t, scopes)

end

end Node

/-- The text of a template; none if the template has no structure or a value is missing. -/
def render? (template : String) (vars : Variables) : Option String := do
  let nodes ← Node.ofPieces? (← pieces? template.toList)
  let (s, _) ← Node.renderAll? nodes [vars]
  return String.ofList s

end NetworkRollout.Template
