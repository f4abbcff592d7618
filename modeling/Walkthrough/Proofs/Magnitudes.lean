import Walkthrough.Binary64.Reading

/-!
# Walkthrough.Proofs.Magnitudes

Numbers that are read from decimal texts are finite.

A number is bounded by a power of two either as a quotient or by its exponent, and rounding takes
the one bound to the other. A significand of a text is below `2 ^ 64`; products that are too large
are refused where they are made, and a quotient by a power of ten is not much larger than what was
divided.

* `exponent_ofRatio_le`: the bound of a quotient is one of the exponent after rounding.
* `ratio_le`: the bound of an exponent is one of the quotient that the number stands for.
* `exponent_div_le`: the bound of a number is one of its quotient by a number not below one.
* `isFinite_scaled`: so what is read is finite, however small the power of ten is.
-/

namespace Walkthrough
namespace Binary64

variable {num den n : Nat} {x y : Binary64}

/-! ## Rounding -/

theorem log2_le (h : num ≤ den * twoTo n) : Nat.log2 num ≤ Nat.log2 den + n := by
  by_cases hnum : num = 0
  · simp [hnum]
  · have hdown : den < twoTo (Nat.log2 den + 1) := Nat.lt_log2_self
    have hbelow : num < twoTo (Nat.log2 den + 1 + n) := by
      rw [twoTo_add]
      exact Nat.lt_of_le_of_lt h (Nat.mul_lt_mul_of_pos_right hdown (twoTo_pos n))
    have hlog : Nat.log2 num < Nat.log2 den + 1 + n := (Nat.log2_lt hnum).2 hbelow
    omega

theorem floorLog2_le (h : num ≤ den * twoTo n) : floorLog2 num den ≤ n := by
  have hlog := log2_le h
  simp only [floorLog2]
  split <;> omega

/-- The exponent is where the scale puts it, and the carry adds one at most. -/
theorem exponent_assemble_le (negative : Bool) (m : Nat) {q : Int} (hn : n ≤ 1022)
    (hq : q ≤ (n : Int) - 52) : (assemble negative m q).exponent.val ≤ n + 1024 := by
  have hplace (m : Nat) {q : Int} (hq : q ≤ (n : Int) - 51) :
      (if m < twoTo 52 then (⟨negative, 0, lastBits m⟩ : Binary64)
        else if 971 < q then infinity negative
        else ⟨negative, Fin.ofNat 2048 (q + 1075).toNat, lastBits (m - twoTo 52)⟩).exponent.val ≤
          n + 1024 := by
    split
    · exact Nat.zero_le _
    · rw [if_neg (by omega)]
      have hmod : (q + 1075).toNat % 2048 ≤ (q + 1075).toNat := Nat.mod_le _ _
      change (q + 1075).toNat % 2048 ≤ n + 1024
      omega
  simp only [assemble]
  split
  · exact hplace _ (by omega)
  · exact hplace _ (by omega)

theorem exponent_ofRatio_le (negative : Bool) (hn : n ≤ 1022) (h : num ≤ den * twoTo n) :
    (ofRatio negative num den).exponent.val ≤ n + 1024 := by
  have hlog := floorLog2_le h
  simp only [ofRatio]
  split
  · exact Nat.zero_le _
  · exact exponent_assemble_le negative _ hn (by omega)

theorem isFinite_of_exponent_le (hn : n ≤ 1022) (h : x.exponent.val ≤ n + 1024) :
    x.isFinite = true := by
  have hne : x.exponent ≠ 2047 := by
    intro heq
    rw [heq] at h
    change 2047 ≤ n + 1024 at h
    omega
  simpa [isFinite] using hne

theorem twoTo_le {k m : Nat} (h : k ≤ m) : twoTo k ≤ twoTo m :=
  Nat.pow_le_pow_right (by decide) h

/-- What an exponent says of the quotient that a number stands for. -/
theorem ratio_le (h : x.exponent.val ≤ n + 1022) : x.ratio.1 ≤ x.ratio.2 * twoTo n := by
  have hmantissa : x.mantissa ≤ twoTo 53 := Nat.le_of_lt x.mantissa_lt
  have hscale : x.scale ≤ (n : Int) - 53 := by
    simp only [scale]
    split <;> omega
  unfold ratio
  split
  · calc x.mantissa * twoTo x.scale.toNat
        ≤ twoTo 53 * twoTo x.scale.toNat := Nat.mul_le_mul_right _ hmantissa
      _ = twoTo (53 + x.scale.toNat) := (twoTo_add _ _).symm
      _ ≤ twoTo n := twoTo_le (by omega)
      _ = 1 * twoTo n := (Nat.one_mul _).symm
  · calc x.mantissa
        ≤ twoTo 53 := hmantissa
      _ ≤ twoTo ((-x.scale).toNat + n) := twoTo_le (by omega)
      _ = twoTo (-x.scale).toNat * twoTo n := twoTo_add _ _

/-! ## Natural numbers -/

theorem exponent_ofNat_le {m : Nat} (hn : n ≤ 1022) (h : m ≤ twoTo n) :
    (ofNat m).exponent.val ≤ n + 1024 :=
  exponent_ofRatio_le false hn (by rwa [Nat.one_mul])

theorem isFinite_ofNat {m : Nat} (h : m < twoTo 64) : (ofNat m).isFinite = true :=
  isFinite_of_exponent_le (by decide) (exponent_ofNat_le (by decide) (Nat.le_of_lt h))

/-! ## Quotients -/

/-- A finite number whose magnitude is not below one. -/
structure IsAtLeastOne (y : Binary64) : Prop where
  finite : y.isFinite = true
  nonzero : y.isZero = false
  le : y.ratio.2 ≤ y.ratio.1

instance (y : Binary64) : Decidable (IsAtLeastOne y) :=
  decidable_of_iff (y.isFinite = true ∧ y.isZero = false ∧ y.ratio.2 ≤ y.ratio.1)
    ⟨fun ⟨h₁, h₂, h₃⟩ => ⟨h₁, h₂, h₃⟩, fun ⟨h₁, h₂, h₃⟩ => ⟨h₁, h₂, h₃⟩⟩

theorem isNaN_of_isFinite (h : x.isFinite = true) : x.isNaN = false := by
  have hexponent : x.exponent ≠ 2047 := by simpa [isFinite] using h
  simp [isNaN, hexponent]

theorem exponent_div_le (hn : n ≤ 1022) (hfinite : x.isFinite = true)
    (hx : x.exponent.val ≤ n + 1022) (hy : y.IsAtLeastOne) :
    (x.div y).exponent.val ≤ n + 1024 := by
  have hnan : (x.isNaN || y.isNaN) = false := by
    rw [isNaN_of_isFinite hfinite, isNaN_of_isFinite hy.finite, Bool.or_false]
  have hboth : (x.isFinite && y.isFinite) = true := by rw [hfinite, hy.finite, Bool.and_true]
  simp only [div, hnan, hy.nonzero, hboth, Bool.false_eq_true, if_false, if_true]
  refine exponent_ofRatio_le _ hn ?_
  calc x.ratio.1 * y.ratio.2
      ≤ x.ratio.2 * twoTo n * y.ratio.1 := Nat.mul_le_mul (ratio_le hx) hy.le
    _ = x.ratio.2 * y.ratio.1 * twoTo n := by rw [Nat.mul_right_comm]

/-- The powers of ten that numbers are divided by. -/
theorem isAtLeastOne_powerOfTen : ∀ k ≤ 308, (powerOfTen k).IsAtLeastOne := by
  decide +kernel

/-! ## Decimal texts -/

/-- What is read from a significand and a power of ten is finite. -/
theorem isFinite_scaled {negative : Bool} {significand : Nat} {power : Int}
    (hsignificand : significand < twoTo 64) (h : scaled negative significand power = some x) :
    x.isFinite = true := by
  have hfinite := isFinite_ofNat hsignificand
  have hexponent := exponent_ofNat_le (n := 64) (by decide) (Nat.le_of_lt hsignificand)
  unfold scaled at h
  generalize ofNat significand = f at hfinite hexponent h
  have hquotient {k : Nat} (hk : k ≤ 308) : (f.div (powerOfTen k)).exponent.val ≤ 66 + 1024 :=
    exponent_div_le (by decide) hfinite hexponent (isAtLeastOne_powerOfTen k hk)
  dsimp only at h
  split at h
  · split at h
    · split at h
      · next hproduct =>
        cases h
        exact hproduct
      · cases h
    · split at h
      · cases h
        exact hfinite
      · cases h
  · split at h
    · next hk =>
      cases h
      exact isFinite_of_exponent_le (x := f.div _) (by decide) (hquotient hk)
    · split at h
      · next hk =>
        cases h
        have hfirst := hquotient (Nat.le_refl 308)
        have hsecond := exponent_div_le (n := 68) (by decide)
          (isFinite_of_exponent_le (by decide) hfirst) hfirst
          (isAtLeastOne_powerOfTen ((-power).toNat - 308) (by omega))
        exact isFinite_of_exponent_le (x := (f.div _).div _) (by decide) hsecond
      · cases h
        rfl

end Binary64
end Walkthrough
