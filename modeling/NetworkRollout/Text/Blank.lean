/-!
# Blank characters

The characters with the Unicode property `White_Space`, and the removal of such characters from
both ends of a text. Release names and replica counts are trimmed before they are read.

* `isBlank_of_isWhitespace`: the blanks of ASCII are among them.
* `trim_eq_self_of_ends`: a text that neither starts nor ends with a blank is left alone.
-/

namespace NetworkRollout.Text

/-- Characters with the Unicode property `White_Space`. -/
def isBlank (c : Char) : Bool :=
  let n := c.toNat
  (9 ≤ n && n ≤ 13) || n == 0x20 || n == 0x85 || n == 0xA0 || n == 0x1680
    || (0x2000 ≤ n && n ≤ 0x200A) || n == 0x2028 || n == 0x2029 || n == 0x202F
    || n == 0x205F || n == 0x3000

def trimStart (s : List Char) : List Char := s.dropWhile isBlank

/-- Drops the blanks at both ends. -/
def trim (s : List Char) : List Char := (trimStart (trimStart s).reverse).reverse

theorem isBlank_of_isWhitespace {c : Char} (h : c.isWhitespace = true) : isBlank c = true := by
  simp only [Char.isWhitespace, Bool.or_eq_true, decide_eq_true_eq] at h
  rcases h with ((h | h) | h) | h <;> subst h <;> decide

theorem trimStart_cons {c : Char} (s : List Char) (h : isBlank c = false) :
    trimStart (c :: s) = c :: s := by
  simp [trimStart, h]

theorem trim_eq_self_of_ends {c d : Char} (s : List Char) (hc : isBlank c = false)
    (hd : isBlank d = false) : trim (c :: s ++ [d]) = c :: s ++ [d] := by
  have hfront : trimStart (c :: s ++ [d]) = c :: s ++ [d] := trimStart_cons (s ++ [d]) hc
  have hback : trimStart (c :: s ++ [d]).reverse = (c :: s ++ [d]).reverse := by
    rw [List.reverse_append]
    exact trimStart_cons _ hd
  rw [trim, hfront, hback, List.reverse_reverse]

end NetworkRollout.Text
