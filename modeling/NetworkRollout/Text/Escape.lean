/-!
# Characters written as numbers

An escape in a literal names a character by hexadecimal digits. Four digits name a unit of 16 bits:
a character from `U+10000` on is written as two of them, a surrogate pair.

* `hexNumber?`: the number of a row of hexadecimal digits.
* `textOfUnits?`: the text of units, with pairs joined.
* `textOfUnits?_of_noSurrogate`: without surrogates each unit is a character.
-/

namespace NetworkRollout.Text

/-- The value of a hexadecimal digit, in either case. -/
def hexDigit? (c : Char) : Option Nat :=
  if c.isDigit then some (c.toNat - '0'.toNat)
  else if 'a' ≤ c ∧ c ≤ 'f' then some (c.toNat - 'a'.toNat + 10)
  else if 'A' ≤ c ∧ c ≤ 'F' then some (c.toNat - 'A'.toNat + 10)
  else none

def hexNumber? (s : List Char) : Option Nat :=
  s.foldl (fun acc c => do return (← acc) * 16 + (← hexDigit? c)) (some 0)

/-- The first half of a surrogate pair. -/
def isHighSurrogate (n : Nat) : Bool := 0xD800 ≤ n && n < 0xDC00

def isLowSurrogate (n : Nat) : Bool := 0xDC00 ≤ n && n < 0xE000

/-- The text of code points and units, surrogate pairs joined; none if half of a pair stands
alone. -/
def textOfUnits? : List Nat → Option (List Char)
  | [] => some []
  | [n] => if isHighSurrogate n || isLowSurrogate n then none else some [Char.ofNat n]
  | n :: m :: rest =>
    if isHighSurrogate n then
      if isLowSurrogate m then
        (textOfUnits? rest).map
          (Char.ofNat (0x10000 + (n - 0xD800) * 0x400 + (m - 0xDC00)) :: ·)
      else none
    else if isLowSurrogate n then none
    else (textOfUnits? (m :: rest)).map (Char.ofNat n :: ·)

theorem textOfUnits?_of_noSurrogate {units : List Nat}
    (h : ∀ n ∈ units, isHighSurrogate n = false ∧ isLowSurrogate n = false) :
    textOfUnits? units = some (units.map Char.ofNat) := by
  fun_induction textOfUnits? units with
  | case1 => rfl
  | case2 n hn => simp_all
  | case3 n hn => simp
  | case4 n m rest hn hm ih => simp_all
  | case5 n m rest hn hm => simp_all
  | case6 n m rest hn hl => simp_all
  | case7 n m rest hn hl ih =>
    rw [ih fun k hk => h k (List.mem_cons_of_mem n hk)]
    rfl

end NetworkRollout.Text
