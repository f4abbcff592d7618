/-!
# Walkthrough.Text.Hexadecimal

Digits to the base sixteen, in either case.

* `hexValue?_lt` bounds the value of a digit.
-/

namespace Walkthrough
namespace Text

/-- The value of a hexadecimal digit. -/
def hexValue? (c : Char) : Option Nat :=
  if c.isDigit then some (c.toNat - 0x30)
  else if 'a' ≤ c ∧ c ≤ 'f' then some (c.toNat - 0x61 + 10)
  else if 'A' ≤ c ∧ c ≤ 'F' then some (c.toNat - 0x41 + 10)
  else none

theorem hexValue?_lt {c : Char} {n : Nat} (h : hexValue? c = some n) : n < 16 := by
  unfold hexValue? at h
  split at h
  · next hd =>
    simp only [Char.isDigit, Bool.and_eq_true, decide_eq_true_eq] at hd
    have : c.toNat ≤ 0x39 := hd.2
    simp only [Option.some.injEq] at h
    omega
  · split at h
    · next hd =>
      have : c.toNat ≤ 0x66 := hd.2
      simp only [Option.some.injEq] at h
      omega
    · split at h
      · next hd =>
        have : c.toNat ≤ 0x46 := hd.2
        simp only [Option.some.injEq] at h
        omega
      · cases h

/-- A number in hexadecimal digits, of which there is at least one. -/
def hexNumber? (cs : List Char) : Option Nat :=
  if cs.isEmpty then none
  else cs.foldlM (fun n c => (hexValue? c).map fun d => 16 * n + d) 0

end Text
end Walkthrough
