import NetworkRollout.Text.Blank
import NetworkRollout.Text.Cut

/-!
# Semantic versions

Version texts of the form `1.2.3-rc.1+build.5` and their precedence. The three numbers are below
2⁶⁴ and have no superfluous zeros. The pre-release identifiers take part in the precedence, the
build identifiers do not.
-/

namespace NetworkRollout

inductive Identifier where
  | number (n : Nat)
  | word (s : List Char)
  deriving DecidableEq, Repr

/-- What counts of a semantic version: its numbers and its pre-release identifiers. -/
structure Version where
  major : Nat
  minor : Nat
  patch : Nat
  prerelease : List Identifier
  deriving DecidableEq, Repr

namespace Version

def isIdentifierChar (c : Char) : Bool := c.isAlphanum || c = '-'

/-- Digits without a superfluous zero in front. -/
def isPlainNumber (s : List Char) : Bool :=
  !s.isEmpty && s.all Char.isDigit && (s.length = 1 || s.head? ≠ some '0')

def coreNumber? (s : List Char) : Option Nat :=
  if isPlainNumber s then
    let n := Nat.ofDigitChars 10 s 0
    if n < UInt64.size then some n else none
  else none

/-- An identifier of a pre-release: a plain number, or a word with a character other than a
digit. -/
def identifier? (s : List Char) : Option Identifier :=
  if s.isEmpty || !s.all isIdentifierChar then none
  else if s.all Char.isDigit then
    if isPlainNumber s then some (.number (Nat.ofDigitChars 10 s 0)) else none
  else some (.word s)

/-- Whether a text is a row of build identifiers. Zeros in front are allowed in these. -/
def isBuild (s : List Char) : Bool :=
  (s.splitOn '.').all fun piece => !piece.isEmpty && piece.all isIdentifierChar

def parse? (s : List Char) : Option Version := do
  let (front, build) := Text.cutAt '+' s
  if (build.map isBuild).getD true then
    let (core, pre) := Text.cutAt '-' front
    match core.splitOn '.' with
    | [major, minor, patch] =>
      let major ← coreNumber? major
      let minor ← coreNumber? minor
      let patch ← coreNumber? patch
      let prerelease ← match pre with
        | none => some []
        | some pre => (pre.splitOn '.').mapM identifier?
      return { major, minor, patch, prerelease }
    | _ => none
  else none

/-- Words in the order of their characters, a beginning before what continues it. -/
def compareWords : List Char → List Char → Ordering
  | [], [] => .eq
  | [], _ :: _ => .lt
  | _ :: _, [] => .gt
  | c :: cs, d :: ds => (compare c.toNat d.toNat).then (compareWords cs ds)

def compareIdentifiers : Identifier → Identifier → Ordering
  | .number m, .number n => compare m n
  | .number _, .word _ => .lt
  | .word _, .number _ => .gt
  | .word s, .word t => compareWords s t

/-- Rows of identifiers by the first difference, a beginning before what continues it. -/
def compareRows : List Identifier → List Identifier → Ordering
  | [], [] => .eq
  | [], _ :: _ => .lt
  | _ :: _, [] => .gt
  | a :: as, b :: bs => (compareIdentifiers a b).then (compareRows as bs)

/-- Pre-releases come before the release they lead up to. -/
def comparePrereleases : List Identifier → List Identifier → Ordering
  | [], [] => .eq
  | [], _ :: _ => .gt
  | _ :: _, [] => .lt
  | as, bs => compareRows as bs

/-- The precedence of two versions. -/
def precedence (v w : Version) : Ordering :=
  (compare v.major w.major).then <| (compare v.minor w.minor).then <|
    (compare v.patch w.patch).then <| comparePrereleases v.prerelease w.prerelease

end Version

end NetworkRollout
