import NetworkRollout.Template.Lexeme

/-!
# Expressions in templates

From the loosest to the tightest: a choice with `if` and `else`, `or`, `and`, `not`, comparisons,
joining with `~`, a minus sign, and behind a primary its members, subscripts, filters and tests.

* `Expression`: the syntax of expressions.
* `Expression.ofLexemes?`: an expression at the front of a row of lexemes.
-/

namespace NetworkRollout.Template

/-- An operator between two expressions that are both evaluated. -/
inductive Operator where
  | equal
  | contained
  | joined
  deriving DecidableEq, Repr

inductive Expression where
  | name (s : String)
  | text (s : String)
  | number (n : Nat)
  | truth (b : Bool)
  | list (items : List Expression)
  /-- The first expression if the test holds, otherwise the second if there is one. -/
  | choice (condition yes : Expression) (no : Option Expression)
  | either (a b : Expression)
  | both (a b : Expression)
  | negation (a : Expression)
  | minus (a : Expression)
  | operation (op : Operator) (a b : Expression)
  | member (a : Expression) (name : String)
  | subscript (a index : Expression)
  | call (function : Expression) (arguments : List Expression)
  | filter (name : String) (a : Expression) (arguments : List Expression)
  | test (name : String) (a : Expression) (arguments : List Expression)
  deriving Repr, Inhabited

namespace Expression

/-- A reader of something at the front of a row of lexemes. -/
abbrev Reader (α : Type) := List Lexeme → Option (α × List Lexeme)

/-- Expressions with commas between them up to a closing sign, in front of which a comma may
stand. -/
def listed? (item : Reader Expression) (closing : String) : Nat → Reader (List Expression)
  | 0, _ => none
  | limit + 1, ls =>
    if ls.head? = some (.sign closing) then some ([], ls.tail)
    else do
      let (e, ls) ← item ls
      match ls with
      | .sign "," :: ls =>
        let (es, ls) ← listed? item closing limit ls
        return (e :: es, ls)
      | .sign s :: ls => if s = closing then some ([e], ls) else none
      | _ => none

/-- A chain of operands with operators between them, grouped from the left. -/
def chain? (operand : Reader Expression)
    (joint? : List Lexeme → Option ((Expression → Expression → Expression) × List Lexeme)) :
    Nat → Expression → Reader Expression
  | 0, _, _ => none
  | limit + 1, left, ls =>
    match joint? ls with
    | none => some (left, ls)
    | some (join, ls) => do
      let (right, ls) ← operand ls
      chain? operand joint? limit (join left right) ls

/-- A chain of at least one operand. -/
def chained? (operand : Reader Expression)
    (joint? : List Lexeme → Option ((Expression → Expression → Expression) × List Lexeme)) :
    Reader Expression := fun ls => do
  let (first, rest) ← operand ls
  chain? operand joint? (rest.length + 1) first rest

/-- Arguments in round brackets, if there are any. -/
def arguments? (inner : Reader Expression) : Reader (List Expression)
  | .sign "(" :: ls => listed? inner ")" (ls.length + 1) ls
  | ls => some ([], ls)

/-- A name, literal, list or expression in round brackets. -/
def primary? (inner : Reader Expression) : Reader Expression
  | .name s :: ls =>
    if s = "true" ∨ s = "True" then some (.truth true, ls)
    else if s = "false" ∨ s = "False" then some (.truth false, ls)
    else some (.name s, ls)
  | .text s :: ls => some (.text s, ls)
  | .number n :: ls => some (.number n, ls)
  | .sign "[" :: ls => (listed? inner "]" (ls.length + 1) ls).map fun (es, ls) => (.list es, ls)
  | .sign "(" :: ls => do
    match ← inner ls with
    | (e, .sign ")" :: ls) => return (e, ls)
    | (e, .sign "," :: ls) =>
      let (es, ls) ← listed? inner ")" (ls.length + 1) ls
      return (.list (e :: es), ls)
    | _ => none
  | _ => none

/-- The members, subscripts and calls behind an expression. -/
def trailers? (inner : Reader Expression) : Nat → Expression → Reader Expression
  | 0, _, _ => none
  | limit + 1, e, ls =>
    match ls with
    | .sign "." :: .name s :: ls => trailers? inner limit (.member e s) ls
    | .sign "." :: _ => none
    | .sign "[" :: ls => do
      match ← inner ls with
      | (i, .sign "]" :: ls) => trailers? inner limit (.subscript e i) ls
      | _ => none
    | .sign "(" :: _ => do
      let (es, ls) ← arguments? inner ls
      trailers? inner limit (.call e es) ls
    | ls => some (e, ls)

def filters? (inner : Reader Expression) : Nat → Expression → Reader Expression
  | 0, _, _ => none
  | limit + 1, e, ls =>
    match ls with
    | .sign "|" :: .name s :: ls => do
      let (es, ls) ← arguments? inner ls
      filters? inner limit (.filter s e es) ls
    | .sign "|" :: _ => none
    | .name "is" :: .name "not" :: .name s :: ls => do
      let (es, ls) ← arguments? inner ls
      filters? inner limit (.negation (.test s e es)) ls
    | .name "is" :: .name s :: ls => do
      let (es, ls) ← arguments? inner ls
      filters? inner limit (.test s e es) ls
    | .name "is" :: _ => none
    | ls => some (e, ls)

/-- A primary with what stands behind it and the minus signs in front of it. -/
def unary? (inner : Reader Expression) : Reader Expression := fun ls => do
  let signs := ls.takeWhile (· = .sign "-")
  let (e, rest) ← primary? inner (ls.drop signs.length)
  let (e, rest) ← trailers? inner (rest.length + 1) (signs.foldl (fun e _ => .minus e) e) rest
  filters? inner (rest.length + 1) e rest

def joinSign? : List Lexeme → Option ((Expression → Expression → Expression) × List Lexeme)
  | .sign "~" :: ls => some (.operation .joined, ls)
  | _ => none

def comparison? : List Lexeme → Option ((Expression → Expression → Expression) × List Lexeme)
  | .sign "==" :: ls => some (.operation .equal, ls)
  | .sign "!=" :: ls => some (fun a b => .negation (.operation .equal a b), ls)
  | .name "in" :: ls => some (.operation .contained, ls)
  | .name "not" :: .name "in" :: ls =>
    some (fun a b => .negation (.operation .contained a b), ls)
  | _ => none

/-- Comparisons with any number of negations in front. -/
def negated? (inner : Reader Expression) : Reader Expression := fun ls => do
  let signs := ls.takeWhile (· = .name "not")
  let (e, rest) ← chained? (chained? (unary? inner) joinSign?) comparison? (ls.drop signs.length)
  return (signs.foldl (fun e _ => .negation e) e, rest)

def word? (word : String) (join : Expression → Expression → Expression) :
    List Lexeme → Option ((Expression → Expression → Expression) × List Lexeme)
  | .name s :: ls => if s = word then some (join, ls) else none
  | _ => none

/-- An expression that is no choice. -/
def simple? (inner : Reader Expression) : Reader Expression :=
  chained? (chained? (negated? inner) (word? "and" .both)) (word? "or" .either)

def choices? (inner : Reader Expression) : Nat → Expression → Reader Expression
  | 0, _, _ => none
  | limit + 1, e, ls =>
    match ls with
    | .name "if" :: ls => do
      let (condition, ls) ← simple? inner ls
      match ls with
      | .name "else" :: ls =>
        let (other, ls) ← inner ls
        choices? inner limit (.choice condition e (some other)) ls
      | ls => choices? inner limit (.choice condition e none) ls
    | ls => some (e, ls)

/-- An expression in which brackets and choices nest up to a limit. -/
def read? : Nat → Reader Expression
  | 0, _ => none
  | limit + 1, ls => do
    let (e, rest) ← simple? (read? limit) ls
    choices? (read? limit) (rest.length + 1) e rest

/-- The expression at the front of a row of lexemes, and what follows it. -/
def ofLexemes? : Reader Expression := fun ls => read? (ls.length + 1) ls

end Expression

end NetworkRollout.Template
