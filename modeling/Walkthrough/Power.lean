/-!
# Walkthrough.Power

Powers of two and of ten.

* `twoTo_add` says that exponents are added where powers are multiplied.
-/

namespace Walkthrough

/-- The product of so many twos. -/
def twoTo (n : Nat) : Nat := Nat.pow 2 n

/-- The product of so many tens. -/
def tenTo (n : Nat) : Nat := Nat.pow 10 n

theorem twoTo_succ (n : Nat) : twoTo (n + 1) = twoTo n * 2 := rfl

theorem twoTo_pos (n : Nat) : 0 < twoTo n := Nat.pow_pos (by decide)

theorem twoTo_add (m n : Nat) : twoTo (m + n) = twoTo m * twoTo n := Nat.pow_add 2 m n

theorem tenTo_pos (n : Nat) : 0 < tenTo n := Nat.pow_pos (by decide)

end Walkthrough
