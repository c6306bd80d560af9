import NetworkRollout.Json.Value
import NetworkRollout.Text.Escape

/-!
# Reading JSON text

A text is one value with blanks around it. The reader keeps every member as written, repeated
names included, and reads each literal exactly: a whole number in the range of 64-bit integers
stays whole, every other number becomes the nearest double.

The fuel of the mutual readers bounds the number of their calls; each call consumes a character
of the text or hands on to a reader that does, so the text's length (twice, and one) is enough.
-/

namespace NetworkRollout.Json

def isGap (c : Char) : Bool := c = ' ' || c = '\n' || c = '\r' || c = '\t'

def skipGap (s : List Char) : List Char := s.dropWhile isGap

/-! ## String literals -/

/-- What the character after a backslash stands for, the letter `u` apart. -/
def escape? (c : Char) : Option Char :=
  if c = '"' ∨ c = '\\' ∨ c = '/' then some c
  else if c = 'b' then some '\x08'
  else if c = 'f' then some '\x0c'
  else if c = 'n' then some '\n'
  else if c = 'r' then some '\r'
  else if c = 't' then some '\t'
  else none

/-- The code points and escaped units of a string literal after its opening quote, with the text
behind the closing quote. -/
def units? : List Char → Option (List Nat × List Char)
  | [] => none
  | '"' :: rest => some ([], rest)
  | '\\' :: 'u' :: a :: b :: c :: d :: rest => do
    let unit ← Text.hexNumber? [a, b, c, d]
    let (units, rest) ← units? rest
    return (unit :: units, rest)
  | '\\' :: c :: rest => do
    let e ← escape? c
    let (units, rest) ← units? rest
    return (e.toNat :: units, rest)
  | c :: rest =>
    if c.toNat < 0x20 then none
    else do
      let (units, rest) ← units? rest
      return (c.toNat :: units, rest)

/-! ## Number literals -/

def takeDigits (s : List Char) : List Char × List Char :=
  (s.takeWhile Char.isDigit, s.dropWhile Char.isDigit)

/-- Digits without a superfluous zero in front. -/
def wholePart? (s : List Char) : Option (List Char × List Char) :=
  match takeDigits s with
  | ([], _) => none
  | ('0' :: _ :: _, _) => none
  | (ds, rest) => some (ds, rest)

/-- The digits after a point, if there is one: at least one digit. -/
def fraction? : List Char → Option (List Char × List Char)
  | '.' :: s =>
    match takeDigits s with
    | ([], _) => none
    | (ds, rest) => some (ds, rest)
  | s => some ([], s)

/-- The exponent, if there is one: a letter, a sign that may be missing, at least one digit. -/
def exponent? (s : List Char) : Option (Option Int × List Char) :=
  let signed (negative : Bool) (s : List Char) : Option (Option Int × List Char) :=
    match takeDigits s with
    | ([], _) => none
    | (ds, rest) =>
      let n : Int := Nat.ofDigitChars 10 ds 0
      some (some (if negative then -n else n), rest)
  match s with
  | c :: s =>
    if c = 'e' ∨ c = 'E' then
      match s with
      | '+' :: s => signed false s
      | '-' :: s => signed true s
      | s => signed false s
    else some (none, c :: s)
  | [] => some (none, [])

/-- The value of a number with the given sign, digits, digits after the point and exponent. -/
def numberValue (negative : Bool) (whole fraction : List Char) (exponent : Option Int) : Json :=
  let digits := Nat.ofDigitChars 10 (whole ++ fraction) 0
  let isWhole := fraction.isEmpty && exponent.isNone
  if isWhole && !negative && digits < UInt64.size then .int digits
  else if isWhole && negative && 0 < digits && digits ≤ twoTo 63 then .int (-digits)
  else
    let x := Binary64.ofDecimal negative digits (exponent.getD 0 - fraction.length)
    if x.isFinite then .float x else .unreadable

def unsignedNumber? (negative : Bool) (s : List Char) : Option (Json × List Char) := do
  let (whole, s) ← wholePart? s
  let (fraction, s) ← fraction? s
  let (exponent, s) ← exponent? s
  return (numberValue negative whole fraction exponent, s)

def number? : List Char → Option (Json × List Char)
  | '-' :: s => unsignedNumber? true s
  | s => unsignedNumber? false s

/-! ## Values -/

def afterWord? : List Char → List Char → Option (List Char)
  | [], s => some s
  | c :: word, d :: s => if c = d then afterWord? word s else none
  | _ :: _, [] => none

/-- A string literal as a value: its text, or `unreadable`. -/
def textValue (units : List Nat) : Json :=
  match Text.textOfUnits? units with
  | some cs => .text (String.ofList cs)
  | none => .unreadable

mutual

/-- One value at the front of a text without blanks before it. -/
def value? : Nat → List Char → Option (Json × List Char)
  | 0, _ => none
  | fuel + 1, s =>
    match s with
    | '"' :: s => (units? s).map fun (units, s) => (textValue units, s)
    | '[' :: s =>
      match skipGap s with
      | ']' :: s => some (.array [], s)
      | s => (items? fuel s).map fun (items, s) => (.array items, s)
    | '\x7b' :: s =>
      match skipGap s with
      | '\x7d' :: s => some (.object [], s)
      | s => (members? fuel s).map fun (ms, s) =>
        (match ms with | some ms => .object ms | none => .unreadable, s)
    | 'n' :: s => (afterWord? ['u', 'l', 'l'] s).map fun s => (.null, s)
    | 't' :: s => (afterWord? ['r', 'u', 'e'] s).map fun s => (.bool true, s)
    | 'f' :: s => (afterWord? ['a', 'l', 's', 'e'] s).map fun s => (.bool false, s)
    | s => number? s

def items? : Nat → List Char → Option (List Json × List Char)
  | 0, _ => none
  | fuel + 1, s => do
    let (item, s) ← value? fuel s
    match skipGap s with
    | ']' :: s => return ([item], s)
    | ',' :: s =>
      let (items, s) ← items? fuel (skipGap s)
      return (item :: items, s)
    | _ => none

/-- The members of an object up to its closing brace; none inside if some name has no text. -/
def members? : Nat → List Char → Option (Option Members × List Char)
  | 0, _ => none
  | fuel + 1, s =>
    match s with
    | '"' :: s => do
      let (units, s) ← units? s
      match skipGap s with
      | ':' :: s =>
        let (value, s) ← value? fuel (skipGap s)
        let first := (Text.textOfUnits? units).map fun name => (String.ofList name, value)
        match skipGap s with
        | '\x7d' :: s => return (first.map ([·]), s)
        | ',' :: s =>
          let (rest, s) ← members? fuel (skipGap s)
          return (do return (← first) :: (← rest), s)
        | _ => none
      | _ => none
    | _ => none

end

def parse? (s : List Char) : Option Json := do
  let (value, rest) ← value? (2 * s.length + 1) (skipGap s)
  if skipGap rest = [] then some value else none

def ofString? (s : String) : Option Json := parse? s.toList

end NetworkRollout.Json
