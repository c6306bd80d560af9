import NetworkRollout.Template.Lexeme
import NetworkRollout.Text.Blank

/-!
# The pieces of a template

Plain text stands for itself. A tag starts with a dollar sign or a percent sign at a brace; a
comment starts with a number sign there and stands for nothing. A dash at the inner side of a mark
drops the blanks of the text beyond the mark. Between the statements `raw` and `endraw`, all is
plain text.

* `Piece`: a text or a tag.
* `pieces?`: the pieces of a template.
-/

namespace NetworkRollout.Template

inductive Piece where
  | text (s : List Char)
  | tag (kind : Tag) (body : List Lexeme)
  deriving DecidableEq, Repr

inductive Opening where
  | tag (kind : Tag)
  | comment
  deriving DecidableEq, Repr

def opening? : List Char → Option Opening
  | '$' :: '\x7b' :: _ => some (.tag .output)
  | '\x7b' :: '%' :: _ => some (.tag .statement)
  | '\x7b' :: '#' :: _ => some .comment
  | _ => none

/-- The text in front of the first mark. -/
def beforeMark : List Char → List Char
  | [] => []
  | c :: cs => if (opening? (c :: cs)).isSome then [] else c :: beforeMark cs

/-- The text from the first mark on. -/
def fromMark : List Char → List Char
  | [] => []
  | c :: cs => if (opening? (c :: cs)).isSome then c :: cs else fromMark cs

def trimEnd (s : List Char) : List Char := (Text.trimStart s.reverse).reverse

def dropControl : List Char → List Char
  | '-' :: s => s
  | '+' :: s => s
  | s => s

/-- What follows a comment, given the character in front; whether the blanks there are to be
dropped. -/
def afterComment? (last : Char) : List Char → Option (Bool × List Char)
  | '#' :: '\x7d' :: rest => some (last = '-', rest)
  | c :: cs => afterComment? c cs
  | [] => none

/-- Reads a word that is all of a statement tag: whether it ends with a dash, and what follows. -/
def lone? (word : String) (s : List Char) : Option (Bool × List Char) := do
  let rest ← behind? word.toList (s.dropWhile isGap)
  Tag.statement.close? (rest.dropWhile isGap)

/-- The text up to the tag `endraw`, the front of the tag, and what follows it. -/
def rawText? : List Char → Option (List Char × Bool × Bool × List Char)
  | [] => none
  | c :: cs =>
    let found : Option (List Char × Bool × Bool × List Char) := do
      let inner ← behind? ['\x7b', '%'] (c :: cs)
      let (trims, rest) ← lone? "endraw" (dropControl inner)
      return ([], inner.head? = some '-', trims, rest)
    match found with
    | some r => some r
    | none => (rawText? cs).map fun (s, r) => (c :: s, r)

/-- A piece for a text that is not empty. -/
def textPiece (s : List Char) : List Piece := if s.isEmpty then [] else [.text s]

/-- The pieces of a text; at first, its leading blanks may be dropped. -/
def piecesFrom? : Nat → Bool → List Char → Option (List Piece)
  | 0, _, _ => none
  | limit + 1, trims, s =>
    let s := if trims then Text.trimStart s else s
    let text := beforeMark s
    let marked := fromMark s
    let inner := marked.drop 2
    let front := textPiece (if inner.head? = some '-' then trimEnd text else text)
    match opening? marked with
    | none => some (textPiece text)
    | some .comment => do
      let (trims, rest) ← afterComment? '#' inner
      return front ++ (← piecesFrom? limit trims rest)
    | some (.tag kind) =>
      let inner := dropControl inner
      match if kind = .statement then lone? "raw" inner else none with
      | some (trimsRaw, rest) => do
        let (raw, trimsEnd, trims, rest) ← rawText? rest
        let raw := if trimsRaw then Text.trimStart raw else raw
        let raw := if trimsEnd then trimEnd raw else raw
        return front ++ textPiece raw ++ (← piecesFrom? limit trims rest)
      | none => do
        let (body, trims, rest) ← kind.body? (inner.length + 1) 0 inner
        return front ++ .tag kind body :: (← piecesFrom? limit trims rest)

def pieces? (s : List Char) : Option (List Piece) := piecesFrom? (s.length + 1) false s

end NetworkRollout.Template
