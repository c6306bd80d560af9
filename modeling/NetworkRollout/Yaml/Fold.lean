import NetworkRollout.Yaml.Cursor

/-!
# Gaps between the words of a scalar

Blanks within a line stand for themselves. A single line end between two words is folded into a
space; of several, the first is dropped and the others stay.
-/

namespace NetworkRollout.Yaml

structure Gap where
  /-- The blanks, up to the end of the line. -/
  blanks : List Char := []
  /-- The first line end. -/
  lineEnd : List Char := []
  /-- The line ends after it. -/
  moreEnds : List Char := []
  /-- Whether the gap leaves its first line. -/
  crosses : Bool := false

namespace Gap

/-- The text that stands for line ends: the first is dropped when it is a line feed, and if it is
the only one, a space takes its place. -/
def foldEnds (lineEnd moreEnds : List Char) : List Char :=
  if lineEnd.head? = some '\n' then
    if moreEnds.isEmpty then [' '] else moreEnds
  else lineEnd ++ moreEnds

def text (g : Gap) : List Char :=
  if g.crosses then foldEnds g.lineEnd g.moreEnds else g.blanks

/-- Reads on over blanks and line ends. With `margin`, a tab in the indentation of a line left of
that column is refused. -/
def readFrom (margin : Option Nat) : Nat → Gap → Cursor → Option (Gap × Cursor)
  | 0, g, c => some (g, c)
  | fuel + 1, g, c =>
    match c.rest.head? with
    | none => some (g, c)
    | some x =>
      if isBlank x then
        if g.crosses && x = '\t' && margin.any (c.column < ·) then none
        else if g.crosses then readFrom margin fuel g c.skip
        else readFrom margin fuel { g with blanks := g.blanks ++ [x] } c.skip
      else if isBreak x then
        if g.crosses then
          readFrom margin fuel { g with moreEnds := g.moreEnds ++ c.breakText } c.skipBreak
        else
          readFrom margin fuel { lineEnd := c.breakText, crosses := true } c.skipBreak
      else some (g, c)

def read (margin : Option Nat) (c : Cursor) (crosses : Bool) : Option (Gap × Cursor) :=
  readFrom margin c.rest.length { crosses } c

end Gap

end NetworkRollout.Yaml
