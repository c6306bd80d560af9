/-!
# A place in a YAML text

The text still to be read together with its place: how many characters, lines and columns lie
before it. A line ends at a line feed, a carriage return (alone or before a line feed), the next
line control character, or a line or paragraph separator.

* `Cursor.skip_lt`: skipping a character shortens the rest.
-/

namespace NetworkRollout.Yaml

def isBlank (c : Char) : Bool := c = ' ' || c = '\t'

def isBreak (c : Char) : Bool :=
  c = '\n' || c = '\r' || c = '\u0085' || c = '\u2028' || c = '\u2029'

/-- The characters of anchor, handle and directive names. -/
def isNameChar (c : Char) : Bool := c.isAlphanum || c = '-' || c = '_'

/-- The characters that a text may hold. -/
def isAllowed (c : Char) : Bool :=
  let n := c.toNat
  n = 9 || n = 0xA || n = 0xD || (0x20 ≤ n && n ≤ 0x7E) || n = 0x85
    || (0xA0 ≤ n && n ≤ 0xD7FF) || (0xE000 ≤ n && n ≤ 0xFFFD) || 0x10000 ≤ n

structure Cursor where
  rest : List Char
  index : Nat := 0
  line : Nat := 0
  column : Nat := 0
  deriving Repr

namespace Cursor

def at? (c : Cursor) (n : Nat) : Option Char := c.rest[n]?

/-- Whether the character at the place is the given one. -/
def has (c : Cursor) (x : Char) : Bool := c.rest.head? == some x

/-- Whether a line ends at a distance from the place. -/
def breakAt (c : Cursor) (n : Nat) : Bool := (c.at? n).any isBreak

/-- Whether a line or the text ends at a distance from the place. -/
def endAt (c : Cursor) (n : Nat) : Bool := (c.at? n).all isBreak

/-- Whether a blank, or the end of a line or of the text, lies at a distance from the place. -/
def gapAt (c : Cursor) (n : Nat) : Bool := (c.at? n).all fun x => isBlank x || isBreak x

def onBlank (c : Cursor) : Bool := c.rest.head?.any isBlank

def atEnd (c : Cursor) : Bool := c.rest.isEmpty

/-- Behind the next character, which does not end the line. -/
def skip (c : Cursor) : Cursor :=
  match c.rest with
  | [] => c
  | _ :: rest => { c with rest, index := c.index + 1, column := c.column + 1 }

/-- Behind the next `n` characters of the line. -/
def skipMany (c : Cursor) (n : Nat) : Cursor :=
  let passed := (c.rest.take n).length
  { c with rest := c.rest.drop n, index := c.index + passed, column := c.column + passed }

def skipBreak (c : Cursor) : Cursor :=
  match c.rest with
  | '\r' :: '\n' :: rest => { rest, index := c.index + 2, line := c.line + 1, column := 0 }
  | x :: rest =>
    if isBreak x then { rest, index := c.index + 1, line := c.line + 1, column := 0 } else c
  | [] => c

/-- The text of the end of a line: line and paragraph separators stand for themselves, every
other end for a line feed. -/
def breakText (c : Cursor) : List Char :=
  match c.rest with
  | x :: _ =>
    if x = '\u2028' ∨ x = '\u2029' then [x] else if isBreak x then ['\n'] else []
  | [] => []

/-- The characters in front with a property, none of which ends a line, and the place behind
them. -/
def takeWhile (c : Cursor) (p : Char → Bool) : List Char × Cursor :=
  let word := c.rest.takeWhile p
  (word, c.skipMany word.length)

def skipWhile (c : Cursor) (p : Char → Bool) : Cursor := (c.takeWhile p).2

/-- The rest of the line, without its end. -/
def takeLine (c : Cursor) : List Char × Cursor := c.takeWhile (!isBreak ·)

/-- Whether a line starts here with three of the given characters and a gap after them. -/
def onMarker (c : Cursor) (x : Char) : Bool :=
  c.column = 0 && c.rest.take 3 == [x, x, x] && c.gapAt 3

def onDocumentMarker (c : Cursor) : Bool := c.onMarker '-' || c.onMarker '.'

theorem skip_lt {c : Cursor} (h : c.atEnd = false) : c.skip.rest.length < c.rest.length := by
  unfold skip
  split
  next hr => simp [atEnd, hr] at h
  next x rest hr => simp [hr]

end Cursor

end NetworkRollout.Yaml
