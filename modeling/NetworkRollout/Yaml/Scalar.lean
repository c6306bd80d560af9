import NetworkRollout.Yaml.Fold
import NetworkRollout.Text.Escape

/-!
# Scalars as they are written

The text of a plain scalar, of a scalar between quotes and of an indented block. Each reader gives
the text and the place behind it, and none where the scalar is malformed.
-/

namespace NetworkRollout.Yaml

/-! ## Plain scalars -/

/-- The characters that end a plain scalar inside brackets and braces. -/
def isFlowIndicator (c : Char) : Bool :=
  c = ',' || c = '[' || c = ']' || c = '\x7b' || c = '\x7d'

/-- One word of a plain scalar: up to a gap, a colon before a gap, or, in a flow collection, one
of its indicators. A colon right before an indicator is refused there. -/
def plainWord (inFlow : Bool) : List Char → Option (List Char)
  | [] => some []
  | c :: rest =>
    let next := rest.head?
    if isBlank c || isBreak c then some []
    else if inFlow && c = ':' && next.any (fun x => isFlowIndicator x || x = '?') then none
    else if c = ':' && next.all (fun x => isBlank x || isBreak x) then some []
    else if inFlow && isFlowIndicator c then some []
    else (plainWord inFlow rest).map (c :: ·)

/-- A plain scalar, and whether it ends on another line than its last word. -/
structure PlainScalar where
  text : List Char
  crosses : Bool
  after : Cursor

def PlainScalar.prepend (text : List Char) (p : PlainScalar) : PlainScalar :=
  { p with text := text ++ p.text }

/-- Reads on at a place where a word may start, behind a gap. `margin` is the column that the
following lines of a scalar in a block must reach. -/
def plainFrom (inFlow : Bool) (margin : Nat) : Nat → Gap → Cursor → Option PlainScalar
  | 0, gap, c => some ⟨[], gap.crosses, c⟩
  | fuel + 1, gap, c =>
    if c.onDocumentMarker || c.has '#' then some ⟨[], gap.crosses, c⟩
    else
      match plainWord inFlow c.rest with
      | none => none
      | some [] => some ⟨[], gap.crosses, c⟩
      | some word =>
        let c := c.skipMany word.length
        let rest : Option PlainScalar :=
          match Gap.read (some margin) c false with
          | none => none
          | some (gap, c') =>
            if c'.index = c.index then some ⟨[], false, c⟩
            else if !inFlow && c'.column < margin then some ⟨[], gap.crosses, c'⟩
            else plainFrom inFlow margin fuel gap c'
        rest.map (.prepend (gap.text ++ word))

def plainScalar? (inFlow : Bool) (margin : Nat) (c : Cursor) : Option PlainScalar :=
  plainFrom inFlow margin (c.rest.length + 1) {} c

/-! ## Scalars between quotes -/

/-- What the character after a backslash stands for, where it stands for one. -/
def simpleEscape? (c : Char) : Option Char :=
  match c with
  | '0' => some '\x00'
  | 'a' => some '\x07'
  | 'b' => some '\x08'
  | 't' => some '\t'
  | '\t' => some '\t'
  | 'n' => some '\n'
  | 'v' => some '\x0b'
  | 'f' => some '\x0c'
  | 'r' => some '\r'
  | 'e' => some '\x1b'
  | ' ' => some ' '
  | '"' => some '"'
  | '/' => some '/'
  | '\\' => some '\\'
  | 'N' => some '\u0085'
  | '_' => some '\u00a0'
  | 'L' => some '\u2028'
  | 'P' => some '\u2029'
  | _ => none

/-- How many hexadecimal digits follow an escape letter. -/
def escapeWidth? (c : Char) : Option Nat :=
  match c with
  | 'x' => some 2
  | 'u' => some 4
  | 'U' => some 8
  | _ => none

/-- The character with a code point, which is no surrogate. -/
def scalarValue? (n : Nat) : Option Char := if n.isValidChar then some (Char.ofNat n) else none

/-- The character of a numeric escape: exactly `width` digits. -/
def codeEscape? (width : Nat) (s : List Char) : Option Char :=
  if s.length < width then none else (Text.hexNumber? (s.take width)).bind scalarValue?

/-- Why the reading of a row of characters between quotes stops. -/
inductive QuoteStop where
  | closing
  | gap
  | escapedBreak
  deriving DecidableEq

/-- A row of characters between quotes, why it stops and the place behind it. -/
abbrev QuotedRun := List Char × QuoteStop × Cursor

def QuotedRun.prepend (x : Char) : QuotedRun → QuotedRun
  | (text, stop, c) => (x :: text, stop, c)

/-- The characters between double quotes up to a gap, an escaped line end or the closing quote. -/
def doubleQuotedRun : Nat → Cursor → Option QuotedRun
  | 0, _ => none
  | fuel + 1, c =>
    match c.rest with
    | [] => some ([], .gap, c)
    | '"' :: _ => some ([], .closing, c.skip)
    | '\\' :: x :: rest =>
      if isBreak x then some ([], .escapedBreak, c.skip.skipBreak)
      else
        match escapeWidth? x with
        | some width => do
          let d ← codeEscape? width rest
          return (← doubleQuotedRun fuel (c.skipMany (2 + width))).prepend d
        | none => do
          let d ← simpleEscape? x
          return (← doubleQuotedRun fuel (c.skipMany 2)).prepend d
    | x :: _ =>
      if isBlank x || isBreak x then some ([], .gap, c)
      else if x = '\\' then none
      else (doubleQuotedRun fuel c.skip).map (.prepend x)

/-- The characters between single quotes up to a gap or the closing quote. A quote written twice
stands for itself. -/
def singleQuotedRun : Nat → Cursor → Option QuotedRun
  | 0, _ => none
  | fuel + 1, c =>
    match c.rest with
    | [] => some ([], .gap, c)
    | '\'' :: '\'' :: _ => (singleQuotedRun fuel (c.skipMany 2)).map (.prepend '\'')
    | '\'' :: _ => some ([], .closing, c.skip)
    | x :: _ =>
      if isBlank x || isBreak x then some ([], .gap, c)
      else (singleQuotedRun fuel c.skip).map (.prepend x)

def quotedFrom (single : Bool) : Nat → Cursor → Option (List Char × Cursor)
  | 0, _ => none
  | fuel + 1, c =>
    if c.onDocumentMarker || c.atEnd then none
    else do
      let run := if single then singleQuotedRun else doubleQuotedRun
      let (part, stop, c) ← run (c.rest.length + 1) c
      let escaped := stop = .escapedBreak
      if stop = .closing then return (part, c)
      else if escaped && c.has '"' then return (part, c.skip)
      else
        let (gap, c) ← Gap.read none c escaped
        let (text, c) ← quotedFrom single fuel c
        return (part ++ gap.text ++ text, c)

/-- The scalar between quotes whose opening quote is at a place. -/
def quotedScalar? (single : Bool) (c : Cursor) : Option (List Char × Cursor) :=
  quotedFrom single (c.rest.length + 1) c.skip

/-! ## Block scalars -/

/-- What happens to the line ends at the end of a block. -/
inductive Chomping where
  | strip
  | clip
  | keep
  deriving DecidableEq

def chomping? (c : Char) : Option Chomping :=
  if c = '+' then some .keep else if c = '-' then some .strip else none

/-- The header of a block after `|` or `>`: chomping and indentation in either order, both
optional; the indentation is not zero. -/
def blockHeader? (c : Cursor) : Option (Chomping × Option Nat × Cursor) :=
  let indentation (c : Cursor) : Option (Option Nat × Cursor) :=
    match c.rest.head? with
    | some d =>
      if d = '0' then none
      else if d.isDigit then some (some (d.toNat - '0'.toNat), c.skip)
      else some (none, c)
    | none => some (none, c)
  match c.rest.head?.bind chomping? with
  | some chomp => (indentation c.skip).map fun (n, c) => (chomp, n, c)
  | none =>
    match indentation c with
    | none => none
    | some (none, c) => some (.clip, none, c)
    | some (some n, c) =>
      match c.rest.head?.bind chomping? with
      | some chomp => some (chomp, some n, c.skip)
      | none => some (.clip, some n, c)

/-- Reads indentation and empty lines. Without a known indentation the widest is kept. A tab in
the indentation is refused. -/
def blockGap (indent : Option Nat) :
    Nat → Nat → List Char → Cursor → Option (List Char × Nat × Cursor)
  | 0, _, _, _ => none
  | fuel + 1, widest, ends, c =>
    let spaces := (c.rest.takeWhile (· = ' ')).length
    let c := c.skipMany (match indent with
      | some n => min spaces (n - c.column)
      | none => spaces)
    let widest := max widest c.column
    if c.has '\t' && indent.all (c.column < ·) then none
    else if c.breakAt 0 then blockGap indent fuel widest (ends ++ c.breakText) c.skipBreak
    else some (ends, widest, c)

/-- The lines of a block: their text, the last line end, the empty lines behind it, and the place
behind them. -/
structure BlockText where
  text : List Char
  lineEnd : List Char
  moreEnds : List Char
  after : Cursor

/-- Reads the lines of a block. `lineEnd` is the line end before the place, `moreEnds` the empty
lines after it, and `blankBefore` says whether the line before them starts with a blank. -/
def blockLines (literal : Bool) (indent : Nat) :
    Nat → List Char → List Char → Bool → Cursor → Option BlockText
  | 0, _, _, _, _ => none
  | fuel + 1, lineEnd, moreEnds, blankBefore, c =>
    if c.column = indent && !c.atEnd then do
      let blank := c.onBlank
      let joint :=
        if !literal && lineEnd.head? = some '\n' && !blankBefore && !blank then
          if moreEnds.isEmpty then [' '] else []
        else lineEnd
      let (line, c) := c.takeLine
      let (ends, _, c') ← blockGap (some indent) (c.rest.length + 1) 0 [] c.skipBreak
      let rest ← blockLines literal indent fuel c.breakText ends blank c'
      return { rest with text := joint ++ moreEnds ++ line ++ rest.text }
    else some ⟨[], lineEnd, moreEnds, c⟩

/-- The block scalar whose indicator is at a place, inside a block of the given indentation. -/
def blockScalar? (literal : Bool) (parent : Int) (c : Cursor) : Option (List Char × Cursor) := do
  let (chomp, increment, c) ← blockHeader? c.skip
  let c := c.skipWhile isBlank
  let c := if c.has '#' then c.takeLine.2 else c
  if !c.endAt 0 then none
  else
    let c := c.skipBreak
    let known := increment.map fun n => (max parent 0).toNat + n
    let (ends, widest, c) ← blockGap known (c.rest.length + 1) 0 [] c
    let indent := known.getD (max widest (max (parent + 1).toNat 1))
    let block ← blockLines literal indent (c.rest.length + 1) [] ends false c
    match chomp with
    | .strip => return (block.text, block.after)
    | .clip => return (block.text ++ block.lineEnd, block.after)
    | .keep => return (block.text ++ block.lineEnd ++ block.moreEnds, block.after)

end NetworkRollout.Yaml
