import NetworkRollout.Template.Piece
import NetworkRollout.Template.Expression

/-!
# The structure of templates

Statements nest: a branch holds what lies between `if`, `elif`, `else` and `endif`, a loop what
lies between `for`, `else` and `endfor`. A name is set to an expression, or to the text between
`set` and `endset`.

* `Node`: a part of a template with its structure.
* `Node.ofPieces?`: the structure of a row of pieces.
-/

namespace NetworkRollout.Template

inductive Node where
  | text (s : List Char)
  | output (e : Expression)
  | branch (test : Expression) (yes no : List Node)
  /-- A loop over the items of an expression; the last part stands for no items at all. -/
  | each (name : String) (items : Expression) (body empty : List Node)
  | assign (name : String) (value : Expression)
  | capture (name : String) (body : List Node)
  deriving Repr, Inhabited

namespace Node

def whole? (ls : List Lexeme) : Option Expression :=
  match Expression.ofLexemes? ls with
  | some (e, []) => some e
  | _ => none

/-- Names that cannot be set. -/
def isReserved (name : String) : Bool :=
  name ∈ ["true", "True", "false", "False", "none", "None", "loop", "self"]

/-- Nodes, the words of the statement that ended them, and the pieces behind it. -/
abbrev Block := List Node × List Lexeme × List Piece

/-- The part behind `else` up to the end, or what stands for a missing one. -/
def otherwise? (nodes : List String → List Piece → Option Block) (ending : String) :
    List Lexeme → List Piece → Option (List Node × List Piece)
  | [.name "else"], ps =>
    match nodes [ending] ps with
    | some (no, [_], ps) => some (no, ps)
    | _ => none
  | [_], ps => some ([], ps)
  | _, _ => none

/-- A branch behind its first word. -/
def branch? (nodes : List String → List Piece → Option Block) :
    Nat → List Lexeme → List Piece → Option (Node × List Piece)
  | 0, _, _ => none
  | limit + 1, ls, ps => do
    let test ← whole? ls
    match ← nodes ["endif", "else", "elif"] ps with
    | (yes, .name "elif" :: ls, ps) =>
      let (no, ps) ← branch? nodes limit ls ps
      return (.branch test yes [no], ps)
    | (yes, ls, ps) =>
      let (no, ps) ← otherwise? nodes "endif" ls ps
      return (.branch test yes no, ps)

/-- A statement that is no end of another one. -/
def statement? (nodes : List String → List Piece → Option Block) :
    List Lexeme → List Piece → Option (Node × List Piece)
  | .name "if" :: ls, ps => branch? nodes (ps.length + 1) ls ps
  | .name "for" :: .name x :: .name "in" :: ls, ps => do
    if isReserved x then none
    else
      let items ← whole? ls
      let (body, ending, ps) ← nodes ["endfor", "else"] ps
      let (no, ps) ← otherwise? nodes "endfor" ending ps
      return (.each x items body no, ps)
  | .name "set" :: .name x :: .sign "=" :: ls, ps =>
    if isReserved x then none else (whole? ls).map fun e => (.assign x e, ps)
  | [.name "set", .name x], ps =>
    if isReserved x then none
    else
      match nodes ["endset"] ps with
      | some (body, [_], ps) => some (.capture x body, ps)
      | _ => none
  | _, _ => none

/-- Nodes up to a statement that starts with one of the given words. -/
def block? : Nat → List String → List Piece → Option Block
  | 0, _, _ => none
  | limit + 1, endings, ps =>
    match ps with
    | [] => if endings = [] then some ([], [], []) else none
    | .text s :: ps => do
      let (nodes, rest) ← block? limit endings ps
      return (.text s :: nodes, rest)
    | .tag .output ls :: ps => do
      let e ← whole? ls
      let (nodes, rest) ← block? limit endings ps
      return (.output e :: nodes, rest)
    | .tag .statement ls :: ps =>
      let ends : Bool := match ls with
        | .name s :: _ => s ∈ endings
        | _ => false
      if ends then some ([], ls, ps)
      else do
        let (node, ps) ← statement? (block? limit) ls ps
        let (nodes, rest) ← block? limit endings ps
        return (node :: nodes, rest)

def ofPieces? (ps : List Piece) : Option (List Node) :=
  (block? (ps.length + 1) [] ps).map (·.1)

end Node

end NetworkRollout.Template
