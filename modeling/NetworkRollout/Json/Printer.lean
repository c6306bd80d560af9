import NetworkRollout.Json.Value
import NetworkRollout.Number.Shortest

/-!
# The compact text of a JSON value

No space stands between tokens, members keep their order, and only what the grammar demands is
escaped: the quote, the backslash and the control characters.
-/

namespace NetworkRollout.Json

/-- The hexadecimal digit of a number below sixteen, in lower case. -/
def hexDigit (n : Nat) : Char := Nat.digitChar n

/-- The text of one character inside a string literal. -/
def escapeChar (c : Char) : List Char :=
  if c = '"' then ['\\', '"']
  else if c = '\\' then ['\\', '\\']
  else if c = '\x08' then ['\\', 'b']
  else if c = '\x0c' then ['\\', 'f']
  else if c = '\n' then ['\\', 'n']
  else if c = '\r' then ['\\', 'r']
  else if c = '\t' then ['\\', 't']
  else if c.toNat < 0x20 then
    ['\\', 'u', '0', '0', hexDigit (c.toNat / 16), hexDigit (c.toNat % 16)]
  else [c]

def quote (s : List Char) : List Char := '"' :: s.flatMap escapeChar ++ ['"']

def intText (n : Int) : List Char :=
  if n < 0 then '-' :: Nat.toDigits 10 n.natAbs else Nat.toDigits 10 n.natAbs

/-- The text of a finite double: its shortest decimal, with a point where the value has digits
on both sides of it and an exponent far from it. Others have no number text. -/
def floatText (x : Binary64) : List Char :=
  if x.isFinite then
    let d := x.shortest
    let ds := Nat.toDigits 10 d.digits
    let point : Int := ds.length + d.exponent
    let body :=
      if 0 ≤ d.exponent ∧ point ≤ 16 then
        ds ++ List.replicate d.exponent.toNat '0' ++ ['.', '0']
      else if 0 < point ∧ point ≤ 16 then
        ds.take point.toNat ++ '.' :: ds.drop point.toNat
      else if -5 < point ∧ point ≤ 0 then
        '0' :: '.' :: List.replicate (-point).toNat '0' ++ ds
      else
        let fraction := if ds.length = 1 then [] else '.' :: ds.drop 1
        ds.take 1 ++ fraction ++ 'e' :: intText (point - 1)
    if x.isNegative then '-' :: body else body
  else ['n', 'u', 'l', 'l']

mutual

def print : Json → List Char
  | .null => ['n', 'u', 'l', 'l']
  | .bool true => ['t', 'r', 'u', 'e']
  | .bool false => ['f', 'a', 'l', 's', 'e']
  | .int n => intText n
  | .float x => floatText x
  | .text s => quote s.toList
  | .array items => '[' :: printItems items
  | .object ms => '\x7b' :: printMembers ms
  | .unreadable => ['n', 'u', 'l', 'l']

/-- The text of the items of an array, with the closing bracket. -/
def printItems : List Json → List Char
  | [] => [']']
  | [item] => print item ++ [']']
  | item :: rest => print item ++ ',' :: printItems rest

/-- The text of the members of an object, with the closing brace. -/
def printMembers : List (String × Json) → List Char
  | [] => ['\x7d']
  | [(name, value)] => quote name.toList ++ ':' :: print value ++ ['\x7d']
  | (name, value) :: rest =>
    quote name.toList ++ ':' :: print value ++ ',' :: printMembers rest

end

def render (j : Json) : String := String.ofList j.print

end NetworkRollout.Json
