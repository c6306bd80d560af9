/-!
# IPv6 addresses in text

An address is eight groups of one to four hexadecimal digits between colons. The last two groups
may be written as a dotted IPv4 address, and one run of zero groups may be left out between two
colons. Zones and brackets are not part of an address.
-/

namespace NetworkRollout.Text

/-- A hexadecimal digit, in either case. -/
def isHexDigit (c : Char) : Bool :=
  c.isDigit || ('a' ≤ c && c ≤ 'f') || ('A' ≤ c && c ≤ 'F')

/-- A group of an IPv6 address. -/
def isGroup (s : List Char) : Bool := !s.isEmpty && s.length ≤ 4 && s.all isHexDigit

/-- A number of an IPv4 address: at most 255, without a superfluous zero in front. -/
def isOctet (s : List Char) : Bool :=
  !s.isEmpty && s.length ≤ 3 && s.all Char.isDigit && (s.length = 1 || s.head? ≠ some '0')
    && Nat.ofDigitChars 10 s 0 ≤ 255

/-- An IPv4 address. -/
def isIPv4 (s : List Char) : Bool :=
  let octets := s.splitOn '.'
  octets.length = 4 && octets.all isOctet

/-- How many groups a row of pieces makes, if it is well formed. A dotted address can only stand
at the end and only where `dotted` allows it. -/
def groupCount? (dotted : Bool) : List (List Char) → Option Nat
  | [] => some 0
  | [last] =>
    if isGroup last then some 1
    else if dotted && isIPv4 last then some 2
    else none
  | piece :: pieces => if isGroup piece then (groupCount? dotted pieces).map (· + 1) else none

/-- The groups in a part of an address, none in an empty part. -/
def partCount? (dotted : Bool) (s : List Char) : Option Nat :=
  if s.isEmpty then some 0 else groupCount? dotted (s.splitOn ':')

/-- A text in front of and behind its first two colons in a row. -/
def cutAtDoubleColon? : List Char → Option (List Char × List Char)
  | ':' :: ':' :: rest => some ([], rest)
  | c :: rest => (cutAtDoubleColon? rest).map fun (front, back) => (c :: front, back)
  | [] => none

/-- Whether a text is an IPv6 address. The groups left out between two colons are at least one. -/
def isIPv6 (s : List Char) : Bool :=
  match cutAtDoubleColon? s with
  | none => groupCount? true (s.splitOn ':') == some 8
  | some (front, back) =>
    match partCount? false front, partCount? true back with
    | some m, some n => m + n ≤ 7
    | _, _ => false

end NetworkRollout.Text
