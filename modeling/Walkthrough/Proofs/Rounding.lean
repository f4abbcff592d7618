import Mathlib.Algebra.Order.Field.Power
import Mathlib.Data.Rat.Cast.Order
import Mathlib.Tactic.FieldSimp
import Mathlib.Tactic.Linarith
import Mathlib.Tactic.Ring
import Walkthrough.Proofs.Magnitudes

/-!
# Walkthrough.Proofs.Rounding

What floating point numbers stand for, and how much of it is lost when they are rounded.

* `IsRounded`: a number is made of units, as many as come nearest to what was rounded, and a unit is
  no more than one part in `2 ^ 52` of that.
* `isRounded_ofRatio`: quotients of ordinary sizes are rounded so, and with them what is multiplied
  or divided (`isRounded_mul`, `isRounded_div`).
* `IsRounded.abs_sub_le` bounds the error.
* `magnitude_ofNat`: natural numbers below `2 ^ 53` stand for themselves.
-/

namespace Walkthrough
namespace Binary64

variable {x y : Binary64} {num den : Nat}

/-! ## Magnitudes -/

/-- What a finite number stands for, its sign apart. -/
def magnitude (x : Binary64) : ℚ := x.mantissa * 2 ^ x.scale

theorem cast_twoTo_toNat {q : Int} (h : 0 ≤ q) : (twoTo q.toNat : ℚ) = 2 ^ q := by
  have hpow : (twoTo q.toNat : ℚ) = 2 ^ q.toNat := Nat.cast_pow 2 q.toNat
  rw [hpow, ← zpow_natCast, Int.toNat_of_nonneg h]

theorem magnitude_eq (x : Binary64) : x.magnitude = x.ratio.1 / x.ratio.2 := by
  unfold magnitude ratio
  split
  · next h => simp [cast_twoTo_toNat h]
  · next h => rw [cast_twoTo_toNat (by omega), zpow_neg, div_inv_eq_mul]

/-! ## Rounding -/

/-- An integer is the nearest to a quotient if twice the difference is no more than one. -/
theorem abs_sub_div_le {k : Nat} (hden : 0 < den) (hlow : 2 * num ≤ 2 * (den * k) + den)
    (hhigh : 2 * (den * k) ≤ 2 * num + den) : |(k : ℚ) - num / den| ≤ 1 / 2 := by
  have hpos : (0 : ℚ) < den := Nat.cast_pos.2 hden
  have hlow' : (2 * num : ℚ) ≤ 2 * (den * k) + den := by exact_mod_cast hlow
  have hhigh' : (2 * (den * k) : ℚ) ≤ 2 * num + den := by exact_mod_cast hhigh
  rw [abs_le]
  constructor
  · rw [neg_le_sub_iff_le_add, div_le_iff₀ hpos]
    linarith
  · rw [sub_le_iff_le_add, ← sub_le_iff_le_add', le_div_iff₀ hpos]
    linarith

theorem roundDiv_cases (num den : Nat) :
    (roundDiv num den = num / den ∧ 2 * (num % den) ≤ den) ∨
      (roundDiv num den = num / den + 1 ∧ den ≤ 2 * (num % den)) := by
  have hparity := Nat.mod_two_eq_zero_or_one (num / den)
  simp only [roundDiv]
  split
  · exact .inl ⟨rfl, by omega⟩
  · split <;> omega

theorem abs_roundDiv_sub_le (num : Nat) (hden : 0 < den) :
    |(roundDiv num den : ℚ) - num / den| ≤ 1 / 2 := by
  have hsplit := Nat.div_add_mod num den
  have hrest := Nat.mod_lt num hden
  have hnext : den * (num / den + 1) = den * (num / den) + den := Nat.mul_succ _ _
  rcases roundDiv_cases num den with ⟨hdown, hmod⟩ | ⟨hup, hmod⟩
  · rw [hdown]
    exact abs_sub_div_le hden (by omega) (by omega)
  · rw [hup]
    exact abs_sub_div_le hden (by omega) (by omega)

theorem abs_roundDivUp_sub_le (hden : 0 < den) :
    |(roundDivUp num den : ℚ) - num / den| ≤ 1 / 2 := by
  have hsplit := Nat.div_add_mod (2 * num + den) (2 * den)
  have hmod := Nat.mod_lt (2 * num + den) (Nat.mul_pos Nat.two_pos hden)
  rw [Nat.mul_assoc] at hsplit
  exact abs_sub_div_le hden (by unfold roundDivUp; omega) (by unfold roundDivUp; omega)

/-- The integer that a magnitude is rounded to is not far from it. -/
theorem abs_roundMagnitude_sub_le (x : Binary64) :
    |(x.roundMagnitude : ℚ) - x.magnitude| ≤ 1 / 2 := by
  rw [magnitude_eq]
  exact abs_roundDivUp_sub_le x.ratio_den_pos

theorem log2_bounds {n : Nat} (hn : 0 < n) :
    (2 : ℚ) ^ (n.log2 : Int) ≤ n ∧ (n : ℚ) < 2 ^ ((n.log2 : Int) + 1) := by
  have hlow : 2 ^ n.log2 ≤ n := Nat.log2_self_le (Nat.ne_of_gt hn)
  have hhigh : n < 2 ^ (n.log2 + 1) := Nat.lt_log2_self
  constructor
  · rw [zpow_natCast]
    exact_mod_cast hlow
  · rw [← Nat.cast_succ, zpow_natCast]
    exact_mod_cast hhigh

/-- The first of the two candidates for a logarithm is right if it fits, and one too large else. -/
theorem fits_iff (hden : 0 < den) (guess : Int) :
    (if 0 ≤ guess then den * twoTo guess.toNat ≤ num else den ≤ num * twoTo (-guess).toNat) ↔
      (2 : ℚ) ^ guess ≤ num / den := by
  have hpos : (0 : ℚ) < den := Nat.cast_pos.2 hden
  rw [le_div_iff₀ hpos]
  split
  · next h =>
    rw [← cast_twoTo_toNat h, mul_comm]
    exact_mod_cast Iff.rfl
  · next h =>
    have hunit : (2 : ℚ) ^ guess * twoTo (-guess).toNat = 1 := by
      rw [cast_twoTo_toNat (by omega), ← zpow_add₀ two_ne_zero, add_neg_cancel, zpow_zero]
    have htwo : (0 : ℚ) < twoTo (-guess).toNat := Nat.cast_pos.2 (twoTo_pos _)
    rw [← mul_le_mul_iff_left₀ htwo, mul_right_comm, hunit, one_mul]
    exact_mod_cast Iff.rfl

theorem floorLog2_bounds (hnum : 0 < num) (hden : 0 < den) :
    (2 : ℚ) ^ floorLog2 num den ≤ num / den ∧ (num / den : ℚ) < 2 ^ (floorLog2 num den + 1) := by
  obtain ⟨hnumLow, hnumHigh⟩ := log2_bounds hnum
  obtain ⟨hdenLow, hdenHigh⟩ := log2_bounds hden
  have hpos : (0 : ℚ) < den := Nat.cast_pos.2 hden
  by_cases hfits : (2 : ℚ) ^ ((num.log2 : Int) - den.log2) ≤ num / den
  · have hlog : floorLog2 num den = (num.log2 : Int) - den.log2 :=
      if_pos ((fits_iff hden _).2 hfits)
    rw [hlog]
    refine ⟨hfits, ?_⟩
    rw [div_lt_iff₀ hpos]
    calc (num : ℚ)
        < 2 ^ ((num.log2 : Int) + 1) := hnumHigh
      _ = 2 ^ ((num.log2 : Int) - den.log2 + 1) * 2 ^ (den.log2 : Int) := by
        rw [← zpow_add₀ two_ne_zero]
        congr 1
        omega
      _ ≤ 2 ^ ((num.log2 : Int) - den.log2 + 1) * den := by gcongr
  · have hlog : floorLog2 num den = (num.log2 : Int) - den.log2 - 1 :=
      if_neg (mt (fits_iff hden _).1 hfits)
    rw [hlog, sub_add_cancel]
    refine ⟨?_, lt_of_not_ge hfits⟩
    rw [le_div_iff₀ hpos]
    calc (2 : ℚ) ^ ((num.log2 : Int) - den.log2 - 1) * den
        ≤ 2 ^ ((num.log2 : Int) - den.log2 - 1) * 2 ^ ((den.log2 : Int) + 1) := by gcongr
      _ = 2 ^ (num.log2 : Int) := by
        rw [← zpow_add₀ two_ne_zero]
        congr 1
        omega
      _ ≤ num := hnumLow

/-- A finite number that is not zero, with the units that it is made of: as many as come nearest to
`v`, none of them larger than one part in `2 ^ 52` of it. -/
structure IsRounded (v : ℚ) (x : Binary64) : Prop where
  finite : x.isFinite = true
  nonzero : x.isZero = false
  units : ∃ (m : Nat) (q : Int), x.magnitude = m * 2 ^ q ∧ 2 ^ (q + 52) ≤ v ∧
    |(m : ℚ) - v / 2 ^ q| ≤ 1 / 2

/-- A number of full length is what its fields say. -/
theorem magnitude_of_fields (negative : Bool) {m : Nat} {q : Int} (hlow : twoTo 52 ≤ m)
    (hhigh : m < twoTo 53) (hq : -1074 ≤ q) (hq' : q ≤ 971) {x : Binary64}
    (hx : x = ⟨negative, Fin.ofNat 2048 (q + 1075).toNat, lastBits (m - twoTo 52)⟩) :
    x.isFinite = true ∧ x.isZero = false ∧ x.magnitude = m * 2 ^ q := by
  have h53 : twoTo 53 = twoTo 52 * 2 := twoTo_succ 52
  have hexponent : x.exponent.val = (q + 1075).toNat := by
    rw [hx]
    exact Nat.mod_eq_of_lt (by omega)
  have hfraction : x.fraction.val = m - twoTo 52 := by
    rw [hx]
    exact Nat.mod_eq_of_lt (by omega)
  have hzero : x.exponent ≠ 0 := by
    intro h
    have hval : x.exponent.val = 0 := congrArg Fin.val h
    omega
  have htop : x.exponent ≠ 2047 := by
    intro h
    have hval : x.exponent.val = 2047 := congrArg Fin.val h
    omega
  have hmantissa : x.mantissa = m := by
    rw [mantissa, if_neg hzero, hfraction]
    omega
  have hscale : x.scale = q := by
    rw [scale, if_neg hzero, hexponent]
    omega
  refine ⟨by simpa [isFinite] using htop, by simp [isZero, hzero], ?_⟩
  rw [magnitude, hmantissa, hscale]

/-- A mantissa of full length, or the next one, with a scale of an ordinary size. -/
theorem magnitude_assemble (negative : Bool) {m : Nat} {q : Int} (hlow : twoTo 52 ≤ m)
    (hhigh : m ≤ twoTo 53) (hq : -1074 ≤ q) (hq' : q ≤ 970) :
    (assemble negative m q).isFinite = true ∧ (assemble negative m q).isZero = false ∧
      (assemble negative m q).magnitude = m * 2 ^ q := by
  have h53 : twoTo 53 = twoTo 52 * 2 := twoTo_succ 52
  have hpos : 0 < twoTo 52 := twoTo_pos 52
  have hplace {m : Nat} {q : Int} (hlow : twoTo 52 ≤ m) (hq' : q ≤ 971) :
      (if m < twoTo 52 then (⟨negative, 0, lastBits m⟩ : Binary64)
        else if 971 < q then infinity negative
        else ⟨negative, Fin.ofNat 2048 (q + 1075).toNat, lastBits (m - twoTo 52)⟩) =
      ⟨negative, Fin.ofNat 2048 (q + 1075).toNat, lastBits (m - twoTo 52)⟩ := by
    rw [if_neg (Nat.not_lt.2 hlow), if_neg (by omega)]
  rcases Nat.lt_or_eq_of_le hhigh with hbelow | rfl
  · have hassemble : assemble negative m q =
        ⟨negative, Fin.ofNat 2048 (q + 1075).toNat, lastBits (m - twoTo 52)⟩ := by
      simp only [assemble, if_neg (Nat.ne_of_lt hbelow)]
      exact hplace hlow (by omega)
    exact magnitude_of_fields negative hlow hbelow hq (by omega) hassemble
  · have hassemble : assemble negative (twoTo 53) q =
        ⟨negative, Fin.ofNat 2048 (q + 1 + 1075).toNat, lastBits (twoTo 52 - twoTo 52)⟩ := by
      simp only [assemble, if_pos]
      exact hplace (Nat.le_refl _) (by omega)
    have hunits : (twoTo 53 : ℚ) * 2 ^ q = twoTo 52 * 2 ^ (q + 1) := by
      rw [h53, zpow_add_one₀ two_ne_zero]
      push_cast
      ring
    rw [hunits]
    exact magnitude_of_fields negative (Nat.le_refl _) (by omega) (by omega) (by omega) hassemble

/-- The number of units is the integer nearest to what they are to make. -/
theorem abs_unitsOf_sub_le (num : Nat) (hden : 0 < den) (q : Int) :
    |((if 0 ≤ q then roundDiv num (den * twoTo q.toNat)
      else roundDiv (num * twoTo (-q).toNat) den : Nat) : ℚ) - num / den / 2 ^ q| ≤ 1 / 2 := by
  split
  · next h =>
    have hround := abs_roundDiv_sub_le num (Nat.mul_pos hden (twoTo_pos q.toNat))
    rwa [Nat.cast_mul, cast_twoTo_toNat h, ← div_div] at hround
  · next h =>
    have hround := abs_roundDiv_sub_le (num * twoTo (-q).toNat) hden
    rwa [Nat.cast_mul, cast_twoTo_toNat (by omega), zpow_neg, mul_div_right_comm,
      ← div_eq_mul_inv] at hround

theorem natCast_near {m k : Nat} {v : ℚ} (h : |(m : ℚ) - v| ≤ 1 / 2) :
    ((k : ℚ) ≤ v → k ≤ m) ∧ (v ≤ k → m ≤ k) := by
  obtain ⟨hlow, hhigh⟩ := abs_le.1 h
  constructor
  · intro hk
    have hlt : (k : ℚ) < m + 1 := by linarith
    exact Nat.lt_succ_iff.1 (by exact_mod_cast hlt)
  · intro hk
    have hlt : (m : ℚ) < k + 1 := by linarith
    exact Nat.lt_succ_iff.1 (by exact_mod_cast hlt)

/-- Far from the smallest and the largest numbers. -/
def IsOrdinary (v : ℚ) : Prop := (2 : ℚ) ^ (-1000 : Int) ≤ v ∧ v ≤ 2 ^ (1000 : Int)

theorem isOrdinary_of_le {v : ℚ} (hlow : 1 / 2 ^ 64 ≤ v) (hhigh : v ≤ 2 ^ 64) : IsOrdinary v := by
  constructor
  · have hpow : (2 : ℚ) ^ (-1000 : Int) ≤ 2 ^ (-64 : Int) :=
      zpow_le_zpow_right₀ one_le_two (by decide)
    exact hpow.trans (by simpa [zpow_neg] using hlow)
  · have hpow : (2 : ℚ) ^ (64 : Int) ≤ 2 ^ (1000 : Int) :=
      zpow_le_zpow_right₀ one_le_two (by decide)
    exact le_trans (by exact_mod_cast hhigh) hpow

/-- Quotients of ordinary sizes are rounded to numbers of full length. -/
theorem isRounded_ofRatio (negative : Bool) (hden : 0 < den) (h : IsOrdinary (num / den)) :
    IsRounded (num / den) (ofRatio negative num den) := by
  obtain ⟨hlow, hhigh⟩ := h
  have hnum : num ≠ 0 := by
    rintro rfl
    rw [Nat.cast_zero, zero_div] at hlow
    exact absurd hlow (not_le_of_gt (zpow_pos two_pos _))
  obtain ⟨hfloor, hceil⟩ := floorLog2_bounds (Nat.pos_of_ne_zero hnum) hden
  have hleast : -1000 < floorLog2 num den + 1 :=
    (zpow_lt_zpow_iff_right₀ one_lt_two).1 (hlow.trans_lt hceil)
  have hmost : floorLog2 num den ≤ 1000 :=
    (zpow_le_zpow_iff_right₀ one_lt_two).1 (hfloor.trans hhigh)
  have hscale : max (floorLog2 num den - 52) (-1074) = floorLog2 num den - 52 :=
    max_eq_left (by omega)
  clear hlow hhigh
  simp only [ofRatio, if_neg hnum, hscale]
  have hnear := abs_unitsOf_sub_le num hden (floorLog2 num den - 52)
  generalize (if 0 ≤ floorLog2 num den - 52 then _ else _) = m at hnear ⊢
  generalize floorLog2 num den = e at *
  have hunit : (0 : ℚ) < 2 ^ (e - 52) := zpow_pos two_pos _
  have hunits (k : Int) (hk : 0 ≤ k) : (twoTo k.toNat : ℚ) * 2 ^ (e - 52) = 2 ^ (e + k - 52) := by
    rw [cast_twoTo_toNat hk, ← zpow_add₀ two_ne_zero, ← add_sub_assoc, add_comm k e]
  have h52 : ((twoTo 52 : Nat) : ℚ) ≤ num / den / 2 ^ (e - 52) := by
    rw [le_div_iff₀ hunit]
    exact (hunits 52 (by decide)).trans_le (by rwa [add_sub_cancel_right])
  have h53 : num / den / 2 ^ (e - 52) ≤ ((twoTo 53 : Nat) : ℚ) := by
    rw [div_le_iff₀ hunit]
    refine le_trans hceil.le (Eq.ge ?_)
    exact (hunits 53 (by decide)).trans (by congr 1; omega)
  obtain ⟨hfinite, hnonzero, hmagnitude⟩ := magnitude_assemble (q := e - 52) negative
    ((natCast_near hnear).1 h52) ((natCast_near hnear).2 h53) (by omega) (by omega)
  exact ⟨hfinite, hnonzero, m, e - 52, hmagnitude, by rwa [sub_add_cancel], hnear⟩

/-- What is lost in rounding is at most half a unit. -/
theorem IsRounded.abs_sub_le {v : ℚ} (h : IsRounded v x) : |x.magnitude - v| ≤ v / 2 ^ 53 := by
  obtain ⟨m, q, hmagnitude, hunit, hnear⟩ := h.units
  have hpos : (0 : ℚ) < 2 ^ q := zpow_pos two_pos _
  have hdiff : x.magnitude - v = 2 ^ q * ((m : ℚ) - v / 2 ^ q) := by
    rw [hmagnitude]
    field_simp
  have hsize : (2 : ℚ) ^ q * 2 ^ 52 ≤ v := by
    rw [zpow_add₀ two_ne_zero] at hunit
    exact_mod_cast hunit
  rw [hdiff, abs_mul, abs_of_pos hpos]
  calc (2 : ℚ) ^ q * |(m : ℚ) - v / 2 ^ q|
      ≤ 2 ^ q * (1 / 2) := by gcongr
    _ ≤ v / 2 ^ 53 := by
      rw [le_div_iff₀ (by positivity)]
      linarith

/-! ## Natural numbers, quotients and products -/

theorem isRounded_ofNat {n : Nat} (hpos : 0 < n) (hn : n < twoTo 53) :
    IsRounded n (ofNat n) := by
  have hone : (1 : ℚ) ≤ n := by exact_mod_cast hpos
  have htop : (n : ℚ) < 2 ^ 53 := by exact_mod_cast hn
  have hratio : (n : ℚ) / (1 : Nat) = n := by rw [Nat.cast_one, div_one]
  have hordinary : IsOrdinary n := isOrdinary_of_le (by linarith) (by linarith)
  rw [← hratio] at hordinary ⊢
  exact isRounded_ofRatio false Nat.one_pos hordinary

/-- Natural numbers that a mantissa has room for are not rounded. -/
theorem magnitude_ofNat {n : Nat} (hpos : 0 < n) (hn : n < twoTo 53) : (ofNat n).magnitude = n := by
  obtain ⟨m, q, hmagnitude, hunit, hnear⟩ := (isRounded_ofNat hpos hn).units
  have hq : q ≤ 0 := by
    have hlt : (2 : ℚ) ^ (q + 52) < 2 ^ (53 : Int) := by
      refine hunit.trans_lt ?_
      rw [← cast_twoTo_toNat (by decide)]
      exact_mod_cast hn
    have hexponents := (zpow_lt_zpow_iff_right₀ one_lt_two).1 hlt
    omega
  -- So the number is made of whole units.
  have hwhole : (n : ℚ) / 2 ^ q = (n * twoTo (-q).toNat : Nat) := by
    rw [Nat.cast_mul, cast_twoTo_toNat (by omega), zpow_neg, div_eq_mul_inv]
  have hm : m = n * twoTo (-q).toNat :=
    Nat.le_antisymm ((natCast_near hnear).2 hwhole.le) ((natCast_near hnear).1 hwhole.ge)
  rw [hmagnitude, hm, ← hwhole]
  exact div_mul_cancel₀ _ (zpow_ne_zero q two_ne_zero)

theorem isRounded_div (hx : x.isFinite = true) (hy : y.isFinite = true) (hzero : y.isZero = false)
    (h : IsOrdinary (x.magnitude / y.magnitude)) :
    IsRounded (x.magnitude / y.magnitude) (x.div y) := by
  have hdiv : x.div y = ofRatio (x.negative != y.negative) (x.ratio.1 * y.ratio.2)
      (x.ratio.2 * y.ratio.1) := by
    simp [div, isNaN_of_isFinite hx, isNaN_of_isFinite hy, hx, hy, hzero]
  have hvalue : x.magnitude / y.magnitude =
      (x.ratio.1 * y.ratio.2 : Nat) / (x.ratio.2 * y.ratio.1 : Nat) := by
    rw [magnitude_eq, magnitude_eq, div_div_div_eq, Nat.cast_mul, Nat.cast_mul]
  have hnum : 0 < y.ratio.1 := Nat.pos_of_ne_zero (ratio_num_ne_zero hzero)
  rw [hvalue] at h
  rw [hdiv, hvalue]
  exact isRounded_ofRatio _ (Nat.mul_pos x.ratio_den_pos hnum) h

theorem isRounded_mul (hx : x.isFinite = true) (hy : y.isFinite = true)
    (h : IsOrdinary (x.magnitude * y.magnitude)) :
    IsRounded (x.magnitude * y.magnitude) (x.mul y) := by
  have hmul : x.mul y = ofRatio (x.negative != y.negative) (x.ratio.1 * y.ratio.1)
      (x.ratio.2 * y.ratio.2) := by
    simp [mul, hx, hy]
  have hvalue : x.magnitude * y.magnitude =
      (x.ratio.1 * y.ratio.1 : Nat) / (x.ratio.2 * y.ratio.2 : Nat) := by
    rw [magnitude_eq, magnitude_eq, div_mul_div_comm, Nat.cast_mul, Nat.cast_mul]
  rw [hvalue] at h
  rw [hmul, hvalue]
  exact isRounded_ofRatio _ (Nat.mul_pos x.ratio_den_pos y.ratio_den_pos) h

/-! ## Zero -/

@[simp] theorem isFinite_zero (negative : Bool) : (zero negative).isFinite = true := rfl

@[simp] theorem isNaN_zero (negative : Bool) : (zero negative).isNaN = false := rfl

@[simp] theorem negative_zero (negative : Bool) : (zero negative).negative = negative := rfl

@[simp] theorem ratio_zero (negative : Bool) : (zero negative).ratio.1 = 0 := rfl

theorem magnitude_zero (negative : Bool) : (zero negative).magnitude = 0 := by
  rw [magnitude_eq, ratio_zero, Nat.cast_zero, zero_div]

theorem zero_div_eq (negative : Bool) (hy : y.isFinite = true) (hzero : y.isZero = false) :
    (zero negative).div y = zero (negative != y.negative) := by
  simp [div, isNaN_of_isFinite hy, hzero, hy, ofRatio]

theorem zero_mul_eq (negative : Bool) (hy : y.isFinite = true) :
    (zero negative).mul y = zero (negative != y.negative) := by
  simp [mul, hy, ofRatio]

end Binary64
end Walkthrough
