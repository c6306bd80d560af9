import NetworkRollout.Text.Escape

/-!
# Words and signs inside the tags of a template

A tag holds names, whole numbers, quoted texts and signs with blanks between them. It ends at its
closing mark, unless brackets are open; a dash in front of the mark asks for the blanks behind the
tag to be dropped.

* `Lexeme`: a word or sign.
* `Tag.body?`: the lexemes of a tag and what follows it.
-/

namespace NetworkRollout.Template

inductive Lexeme where
  | name (s : String)
  | number (n : Nat)
  | text (s : String)
  | sign (s : String)
  deriving DecidableEq, Repr

inductive Tag where
  /-- The value of an expression is written here. -/
  | output
  /-- A statement such as a branch or a loop. -/
  | statement
  deriving DecidableEq, Repr

def Tag.closing : Tag → List Char
  | output => ['}']
  | statement => ['%', '}']

def isGap (c : Char) : Bool := c = ' ' || c = '\t' || c = '\n' || c = '\r' || c = '\x0c'

def isNameStart (c : Char) : Bool := c.isAlpha || c = '_'

def isNamePart (c : Char) : Bool := c.isAlphanum || c = '_'

def behind? (front s : List Char) : Option (List Char) :=
  if front.isPrefixOf s then some (s.drop front.length) else none

namespace Lexeme

/-- The character that a backslash and a letter stand for, the letter `u` apart. -/
def escaped? : Char → Option Char
  | '"' => some '"'
  | '\\' => some '\\'
  | '/' => some '/'
  | '\'' => some '\''
  | 'b' => some '\x08'
  | 'f' => some '\x0c'
  | 'n' => some '\n'
  | 'r' => some '\r'
  | 't' => some '\t'
  | _ => none

/-- The units of a quoted text up to its closing quote, and what follows. -/
def units? (quote : Char) : List Char → Option (List Nat × List Char)
  | [] => none
  | '\\' :: 'u' :: a :: b :: c :: d :: cs => do
    let unit ← Text.hexNumber? [a, b, c, d]
    let (units, rest) ← units? quote cs
    return (unit :: units, rest)
  | '\\' :: c :: cs => do
    let e ← escaped? c
    let (units, rest) ← units? quote cs
    return (e.toNat :: units, rest)
  | c :: cs =>
    if c = quote then some ([], cs)
    else if c = '\\' then none
    else do
      let (units, rest) ← units? quote cs
      return (c.toNat :: units, rest)

/-- The quoted text up to its closing quote, and what follows. -/
def quoted? (quote : Char) (s : List Char) : Option (List Char × List Char) := do
  let (units, rest) ← units? quote s
  return (← Text.textOfUnits? units, rest)

def isDouble (c d : Char) : Bool := (c, d) ∈ [('=', '='), ('!', '='), ('<', '='), ('>', '=')]

def isSingle (c : Char) : Bool := c ∈ "+-*/%.,:~|=<>()[]\x7b\x7d".toList

/-- The lexeme at the front of a text that starts with no blank, and what follows it. -/
def first? : List Char → Option (Lexeme × List Char)
  | [] => none
  | c :: cs =>
    if c = '"' || c = '\'' then do
      let (s, rest) ← quoted? c cs
      return (.text (String.ofList s), rest)
    else if c.isDigit then
      let digits := c :: cs.takeWhile Char.isDigit
      some (.number (Nat.ofDigitChars 10 digits 0), cs.dropWhile Char.isDigit)
    else if isNameStart c then
      some (.name (String.ofList (c :: cs.takeWhile isNamePart)), cs.dropWhile isNamePart)
    else
      match cs with
      | d :: rest =>
        if isDouble c d then some (.sign (String.ofList [c, d]), rest)
        else if isSingle c then some (.sign c.toString, cs)
        else none
      | [] => if isSingle c then some (.sign c.toString, []) else none

def nesting : Lexeme → Int
  | sign s =>
    if s ∈ ["(", "[", "\x7b"] then 1 else if s ∈ [")", "]", "\x7d"] then -1 else 0
  | _ => 0

end Lexeme

namespace Tag

/-- Reads the closing mark with the dash or plus in front of it, and tells whether blanks are to be
dropped. -/
def close? (tag : Tag) (s : List Char) : Option (Bool × List Char) :=
  match behind? ('-' :: tag.closing) s with
  | some rest => some (true, rest)
  | none =>
    match behind? ('+' :: tag.closing) s with
    | some rest => some (false, rest)
    | none => (behind? tag.closing s).map (false, ·)

/-- The lexemes up to the closing mark, whether the blanks behind the tag are to be dropped, and
what follows the tag. -/
def body? (tag : Tag) : Nat → Int → List Char → Option (List Lexeme × Bool × List Char)
  | 0, _, _ => none
  | limit + 1, nesting, s =>
    let s := s.dropWhile isGap
    match if nesting = 0 then tag.close? s else none with
    | some (trims, rest) => some ([], trims, rest)
    | none => do
      let (lexeme, rest) ← Lexeme.first? s
      let (lexemes, after) ← body? tag limit (nesting + lexeme.nesting) rest
      return (lexeme :: lexemes, after)

end Tag

end NetworkRollout.Template
