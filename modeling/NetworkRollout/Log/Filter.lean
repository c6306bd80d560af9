import NetworkRollout.Log.Level
import NetworkRollout.Text.Blank
import NetworkRollout.Text.Cut

/-!
# Which log records are shown

A filter is a list of directives between commas, such as `error,cnro=info`. A directive sets a
threshold for all targets, or for those that start with a text; in brackets it may ask for a span
and for a field of the record. Of the directives that fit a record the most specific one decides.

* `LogDirective.ofPiece?`: the grammar of a directive.
* `LogFilter.ofText?`, `LogFilter.ofTextLeniently`: a list with a bad directive, refused or without
  it.
* `LogFilter.admits`: whether a record is shown.
-/

namespace NetworkRollout

structure LogField where
  name : String
  /-- Whether the directive also asks for a value. -/
  hasValue : Bool
  deriving DecidableEq, Repr

/-- A directive: the records it is about, and their threshold. -/
structure LogDirective where
  /-- The text that targets start with. -/
  target : Option String := none
  /-- The span around the record. -/
  span : Option String := none
  field : Option LogField := none
  threshold : LogThreshold
  deriving DecidableEq, Repr

namespace LogDirective

def everything : LogThreshold := ⟨some .trace⟩

/-! ## Grammar

The shape of a directive is that of the piece without the blanks around it, but its parts are cut
out of the piece as it stands, at the same distances from the start: blanks in front shift them.
The reader walks over both texts at once. -/

/-- A character of the trimmed piece, with the one at the same place in the piece itself. -/
abbrev Cell := Char × Char

def part (cells : List Cell) : List Char := cells.map Prod.snd

/-- Characters with which a directive starts: letters, digits, `-`, `:` and `_`. Of the characters
beyond ASCII none is refused. -/
def startsDirective (c : Char) : Bool :=
  c.isAlphanum || c = '-' || c = ':' || c = '_' || decide (128 ≤ c.toNat)

def threshold? (text : List Char) : Option LogThreshold :=
  if text = [] then some everything else LogThreshold.ofText? text

/-- Behind the brackets: nothing, or an equals sign and a threshold. -/
def afterBrackets? (rest : List Char) (d : LogDirective) : List Cell → Option LogDirective
  | [] => some d
  | ('=', _) :: cells => do return { d with threshold := ← threshold? (part cells ++ rest) }
  | _ => none

/-- A field with the value behind its first equals sign. -/
def field? (text : List Char) : Option LogField :=
  if text = [] then none
  else
    let (name, value) := Text.cutAt '=' text
    some ⟨String.ofList name, value.isSome⟩

/-- Inside the brackets: a span, a field in braces, or both. -/
def brackets? (rest : List Char) (d : LogDirective) (cells : List Cell) : Option LogDirective :=
  let (span, more) := cells.span fun c => c.1 ≠ ']' && c.1 ≠ '\x7b'
  match more with
  | (']', _) :: more =>
    afterBrackets? rest { d with span := some (String.ofList (part span)) } more
  | _ :: more => do
    let (inside, more) := more.span (·.1 ≠ '\x7d')
    let field ← field? (part inside)
    let span := if span.isEmpty then none else some (String.ofList (part span))
    match more with
    | _ :: (']', _) :: more => afterBrackets? rest { d with span := span, field := some field } more
    | _ => none
  | [] => none

/-- A target or a threshold alone, or a target with what follows it. -/
def target? (rest : List Char) (cells : List Cell) : Option LogDirective :=
  let (target, more) := cells.span fun c => c.1 ≠ '=' && c.1 ≠ '['
  let named : LogDirective :=
    { target := some (String.ofList (part target)), threshold := everything }
  match more with
  | ('=', _) :: _ => afterBrackets? rest named more
  | _ :: more => brackets? rest named more
  | [] =>
    match LogThreshold.ofText? (part cells ++ rest) with
    | some threshold => some { threshold := threshold }
    | none => some { named with target := some (String.ofList (part cells ++ rest)) }

def ofPiece? (piece : List Char) : Option LogDirective :=
  let trimmed := Text.trim piece
  let cells := trimmed.zip piece
  let rest := piece.drop trimmed.length
  match cells with
  | [] => none
  | ('[', _) :: cells => brackets? rest { threshold := everything } cells
  | cell :: _ => if startsDirective cell.1 then target? rest cells else none

/-! ## Choice -/

/-- The field of a record that holds its message; records have no other. -/
def messageField : String := "message"

/-- Whether the directive is about records of a target. One that asks for a span, or for the value
of a field, is not: no span is around a record. -/
def fits (d : LogDirective) (target : String) : Bool :=
  d.span.isNone && d.field.all (fun f => !f.hasValue && f.name = messageField)
    && d.target.all (fun t => t.toList.isPrefixOf target.toList)

/-- How specific a directive is: first by the length of its target, then by its field. -/
def weight (d : LogDirective) : Nat :=
  2 * (d.target.elim 0 (·.length + 1)) + d.field.elim 0 (fun _ => 1)

/-- The more specific of two directives; the later one when they are alike. -/
def prefer (best : Option LogDirective) (d : LogDirective) : Option LogDirective :=
  match best with
  | some b => if d.weight < b.weight then some b else some d
  | none => some d

end LogDirective

structure LogFilter where
  directives : List LogDirective
  deriving DecidableEq, Repr

namespace LogFilter

/-- The pieces of a list that are not empty. -/
def pieces (text : String) : List (List Char) :=
  (text.toList.splitOn ',').filter (· ≠ [])

/-- The filter, if every directive is good. -/
def ofText? (text : String) : Option LogFilter :=
  ((pieces text).mapM LogDirective.ofPiece?).map LogFilter.mk

def ofTextLeniently (text : String) : LogFilter :=
  ⟨(pieces text).filterMap LogDirective.ofPiece?⟩

/-- The filter that the environment sets, if it is good, else the one of the settings. -/
def choose (environment : Option String) (setting : String) : LogFilter :=
  match environment.bind ofText? with
  | some filter => filter
  | none => ofTextLeniently setting

/-- Whether records of a target and a level are shown. Without directives only errors are. -/
def admits (filter : LogFilter) (target : String) (level : LogLevel) : Bool :=
  if filter.directives = [] then level = .error
  else
    match (filter.directives.filter (·.fits target)).foldl LogDirective.prefer none with
    | some d => d.threshold.admits level
    | none => false

end LogFilter

end NetworkRollout
