/-!
# Powers of two and of ten

The bases of the number formats: doubles are written in powers of two, decimals in powers of ten.
-/

namespace NetworkRollout

abbrev twoTo (n : Nat) : Nat := Nat.pow 2 n

abbrev tenTo (n : Nat) : Nat := Nat.pow 10 n

end NetworkRollout
