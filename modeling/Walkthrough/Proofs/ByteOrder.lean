import Mathlib.Data.String.Basic
import Mathlib.Data.List.Basic

/-!
# Walkthrough.Proofs.ByteOrder

Texts are in the order of their bytes: UTF-8 gives a smaller character smaller bytes.

* `toByteArray_bytes`: `bytes` is the UTF-8 of a text.
* `encode_lt`: two characters differ at a byte of both.
* `lt_iff_bytes_lt`: so do two texts, unless one goes on where the other ends.
-/

namespace Walkthrough
namespace Text

/-- The bytes of a text in UTF-8. -/
def bytes (s : String) : List UInt8 := s.toList.flatMap String.utf8EncodeChar

theorem toByteArray_bytes (s : String) : s.toUTF8 = (bytes s).toByteArray := by
  have h := String.toByteArray_ofList (l := s.toList)
  rwa [String.ofList_toList] at h

theorem ofNat_cons_lt {m n : Nat} (hm : m < 256) (hn : n < 256) {xs ys : List UInt8} :
    UInt8.ofNat m :: xs < UInt8.ofNat n :: ys ↔ m < n ∨ m = n ∧ xs < ys := by
  rw [List.cons_lt_cons_iff, UInt8.lt_iff_toNat_lt, ← UInt8.toNat_inj, UInt8.toNat_ofNat',
    UInt8.toNat_ofNat', Nat.mod_eq_of_lt hm, Nat.mod_eq_of_lt hn]

/-- Numbers below a limit differ at one of their four digits, the first of which is below 8. -/
theorem digits_lt {m n : Nat} (h : m < n) (hn : n < 0x110000) :
    m / 262144 % 8 < n / 262144 % 8 ∨ m / 262144 % 8 = n / 262144 % 8 ∧
      (m / 4096 % 64 < n / 4096 % 64 ∨ m / 4096 % 64 = n / 4096 % 64 ∧
        (m / 64 % 64 < n / 64 % 64 ∨ m / 64 % 64 = n / 64 % 64 ∧ m % 64 < n % 64)) := by
  have hdigits (k : Nat) (hk : k < 0x110000) :
      k = k / 262144 % 8 * 262144 + k / 4096 % 64 * 4096 + k / 64 % 64 * 64 + k % 64 := by omega
  have hm := hdigits m (by omega)
  have hn := hdigits n hn
  have hmlast : m / 4096 % 64 < 64 ∧ m / 64 % 64 < 64 ∧ m % 64 < 64 := by omega
  have hnlast : n / 4096 % 64 < 64 ∧ n / 64 % 64 < 64 ∧ n % 64 < 64 := by omega
  -- The digits alone decide; how they come from the numbers would only slow the decision down.
  generalize m / 262144 % 8 = m1, m / 4096 % 64 = m2, m / 64 % 64 = m3, m % 64 = m4 at *
  generalize n / 262144 % 8 = n1, n / 4096 % 64 = n2, n / 64 % 64 = n3, n % 64 = n4 at *
  omega

theorem encode_lt {c d : Char} (h : c < d) (xs ys : List UInt8) :
    String.utf8EncodeChar c ++ xs < String.utf8EncodeChar d ++ ys := by
  have hlt : c.val.toNat < d.val.toNat := h
  have hd : d.val.toNat < 0x110000 := by
    have hvalid := d.valid
    unfold UInt32.isValidChar Nat.isValidChar at hvalid
    omega
  have hdigits := digits_lt hlt hd
  simp only [String.utf8EncodeChar]
  generalize c.val.toNat = m at *
  generalize d.val.toNat = n at *
  split_ifs <;>
    simp (disch := omega) only [List.cons_append, List.nil_append, ofNat_cons_lt] <;>
    omega

theorem encode_ne_nil (c : Char) : String.utf8EncodeChar c ≠ [] := by
  simp only [String.utf8EncodeChar]
  split_ifs <;> exact List.cons_ne_nil _ _

theorem flatMap_encode_lt {cs ds : List Char} (h : cs < ds) :
    cs.flatMap String.utf8EncodeChar < ds.flatMap String.utf8EncodeChar := by
  -- Along the characters that both begin with, up to the first one that differs.
  induction h with
  | @nil d ds =>
    obtain ⟨x, xs, hx⟩ := List.exists_cons_of_ne_nil (encode_ne_nil d)
    rw [List.flatMap_cons, hx, List.cons_append]
    exact List.nil_lt_cons _ _
  | cons _ ih => exact List.append_left_lt ih
  | rel hlt => exact encode_lt hlt _ _

/-- Texts are in the order of their bytes. -/
theorem lt_iff_bytes_lt {s t : String} : s < t ↔ bytes s < bytes t := by
  rw [String.lt_iff_toList_lt]
  refine ⟨flatMap_encode_lt, fun h => ?_⟩
  rcases lt_trichotomy s.toList t.toList with hlt | heq | hgt
  · exact hlt
  · rw [bytes, heq] at h
    exact absurd h (List.lt_irrefl _)
  · exact absurd h (List.lt_asymm (flatMap_encode_lt hgt))

end Text
end Walkthrough
