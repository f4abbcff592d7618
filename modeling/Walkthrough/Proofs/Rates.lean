import Walkthrough.Proofs.Reporting
import Walkthrough.Proofs.Rounding

/-!
# Walkthrough.Proofs.Rates

The rate of success of a report, as the number that it stands for.

Two quotients and a product are rounded on the way to it. None of these errors is large enough to
matter in a list of less than `2 ^ 32` results.

* `exists_rate`: a rate is a number of hundredths of a percent, the nearest there is.
* `Summary.successRate_eq_hundred_iff`: unless the list is very long, its rate is a hundred only if
  every scenario has passed.
* `successRate_of_run`: the rate in the report of a run.
-/

namespace Walkthrough

namespace Report

open Binary64

/-! ## The rate of success -/

/-- No number of hundredths of a percent comes nearer to the share of a part than `k`. -/
structure IsNearest (part total k : Nat) : Prop where
  le : 2 * total * k ≤ 20000 * part + total
  ge : 20000 * part ≤ 2 * total * k + total

variable {part total : Nat}

/-- The rounded share, ten thousand times as large and rounded once more, is near enough to give the
right integer. -/
theorem isNearest_of_near {k : Nat} {share product : ℚ} (hpart : part ≤ total)
    (htotal : total < twoTo 32) (hpos : 0 < total)
    (hshare : |share - part / total| ≤ part / total / 2 ^ 53)
    (hproduct : |product - share * 10000| ≤ share * 10000 / 2 ^ 53)
    (hk : |(k : ℚ) - product| ≤ 1 / 2) : IsNearest part total k := by
  have htop : (total : ℚ) < 2 ^ 32 := by exact_mod_cast htotal
  have hpos : (0 : ℚ) < total := Nat.cast_pos.2 hpos
  have hle : (part : ℚ) / total ≤ 1 := (div_le_one₀ hpos).2 (Nat.cast_le.2 hpart)
  have hpart' : (part : ℚ) / total * total = part := div_mul_cancel₀ _ hpos.ne'
  generalize (part : ℚ) / total = v at *
  rw [abs_le] at hshare hproduct hk
  have hnear : |(k : ℚ) - 10000 * v| ≤ 1 / 2 + 1 / 2 ^ 35 := by
    rw [abs_le]
    constructor <;> linarith
  obtain ⟨hlow, hhigh⟩ := abs_le.1 hnear
  constructor
  · have hlt : (2 * total * k : ℚ) < 20000 * part + total + 1 := by
      calc (2 * total * k : ℚ)
          ≤ 2 * total * (10000 * v + (1 / 2 + 1 / 2 ^ 35)) := by gcongr; linarith
        _ = 20000 * (v * total) + total + total / 2 ^ 34 := by ring
        _ < 20000 * part + total + 1 := by rw [hpart']; linarith
    exact Nat.lt_succ_iff.1 (by exact_mod_cast hlt)
  · have hlt : (20000 * part : ℚ) < 2 * total * k + total + 1 := by
      calc (20000 * part : ℚ)
          = 2 * total * (10000 * v) := by rw [← hpart']; ring
        _ ≤ 2 * total * (k + (1 / 2 + 1 / 2 ^ 35)) := by gcongr; linarith
        _ = 2 * total * k + total + total / 2 ^ 34 := by ring
        _ < 2 * total * k + total + 1 := by linarith
    exact Nat.lt_succ_iff.1 (by exact_mod_cast hlt)

theorem share_bounds (hsome : 0 < part) (hpart : part ≤ total) (htotal : total < twoTo 32) :
    1 / 2 ^ 32 ≤ (part : ℚ) / total ∧ (part : ℚ) / total ≤ 1 := by
  have htop : (total : ℚ) < 2 ^ 32 := by exact_mod_cast htotal
  have hone : (1 : ℚ) ≤ part := by exact_mod_cast hsome
  have hpos : (0 : ℚ) < total := Nat.cast_pos.2 (Nat.lt_of_lt_of_le hsome hpart)
  refine ⟨?_, (div_le_one₀ hpos).2 (Nat.cast_le.2 hpart)⟩
  rw [div_le_div_iff₀ (by positivity) hpos]
  linarith

theorem isRounded_share (hsome : 0 < part) (hpart : part ≤ total) (htotal : total < twoTo 32) :
    IsRounded (part / total) ((ofNat part).div (ofNat total)) := by
  have h53 : twoTo 32 ≤ twoTo 53 := twoTo_le (by decide)
  have hpos : 0 < total := Nat.lt_of_lt_of_le hsome hpart
  have hpartRounded := isRounded_ofNat hsome (by omega)
  have htotalRounded := isRounded_ofNat hpos (by omega)
  obtain ⟨hlow, hhigh⟩ := share_bounds hsome hpart htotal
  have hordinary : IsOrdinary ((part : ℚ) / total) := isOrdinary_of_le (by linarith) (by linarith)
  rw [← magnitude_ofNat hsome (by omega), ← magnitude_ofNat hpos (by omega)] at hordinary ⊢
  exact isRounded_div hpartRounded.finite htotalRounded.finite htotalRounded.nonzero hordinary

theorem isRounded_timesTenThousand {v : ℚ} {share : Binary64} (h : IsRounded v share)
    (hlow : 1 / 2 ^ 32 ≤ v) (hhigh : v ≤ 1) :
    IsRounded (share.magnitude * 10000) (share.mul (ofNat 10000)) := by
  have hten : IsRounded (10000 : Nat) (ofNat 10000) := isRounded_ofNat (by decide) (by decide)
  have hmagnitude : (ofNat 10000).magnitude = 10000 := magnitude_ofNat (by decide) (by decide)
  obtain ⟨hbelow, habove⟩ := abs_le.1 h.abs_sub_le
  rw [← hmagnitude]
  refine isRounded_mul h.finite hten.finite ?_
  rw [hmagnitude]
  exact isOrdinary_of_le (by linarith) (by linarith)

/-- The rate is a number of hundredths of a percent, the nearest there is. -/
theorem exists_rate (hpart : part ≤ total) (htotal : total < twoTo 32) (hpos : 0 < total) :
    ∃ k, IsNearest part total k ∧ Summary.rate part total = (ofNat k).div (ofNat 100) := by
  refine ⟨_, ?_, if_neg (Nat.ne_of_gt hpos)⟩
  have hround := abs_roundMagnitude_sub_le (((ofNat part).div (ofNat total)).mul (ofNat 10000))
  rcases Nat.eq_zero_or_pos part with rfl | hsome
  · have h53 : twoTo 32 ≤ twoTo 53 := twoTo_le (by decide)
    have htotalRounded := isRounded_ofNat hpos (by omega)
    have hten : IsRounded (10000 : Nat) (ofNat 10000) := isRounded_ofNat (by decide) (by decide)
    have hshare : |(0 : ℚ) - (0 : Nat) / total| ≤ (0 : Nat) / total / 2 ^ 53 := by simp
    have hproduct : |(0 : ℚ) - 0 * 10000| ≤ 0 * 10000 / 2 ^ 53 := by simp
    have hnone : ofNat 0 = zero false := rfl
    rw [hnone, zero_div_eq false htotalRounded.finite htotalRounded.nonzero,
      zero_mul_eq _ hten.finite] at hround ⊢
    rw [magnitude_zero] at hround
    exact isNearest_of_near hpart htotal hpos hshare hproduct hround
  · obtain ⟨hlow, hhigh⟩ := share_bounds hsome hpart htotal
    have hshare := isRounded_share hsome hpart htotal
    have hproduct := isRounded_timesTenThousand hshare hlow hhigh
    exact isNearest_of_near hpart htotal hpos hshare.abs_sub_le hproduct.abs_sub_le hround

/-! ## What a rate tells -/

theorem IsNearest.le_tenThousand {k : Nat} (h : IsNearest part total k) (hpart : part ≤ total)
    (hpos : 0 < total) : k ≤ 10000 := by
  have hle := h.le
  by_contra hlarge
  have hmul : 2 * total * 10001 ≤ 2 * total * k := Nat.mul_le_mul_left _ (by omega)
  omega

/-- In a list that is not too long the rate rounds up to a hundred for all of it only. -/
theorem IsNearest.eq_tenThousand_iff {k : Nat} (h : IsNearest part total k) (hpart : part ≤ total)
    (hpos : 0 < total) (hlist : total < 20000) : k = 10000 ↔ part = total := by
  have hle := h.le
  have hge := h.ge
  constructor
  · rintro rfl
    omega
  · rintro rfl
    refine Nat.le_antisymm (h.le_tenThousand hpart hpos) ?_
    by_contra hsmall
    have hmul : 2 * part * k ≤ 2 * part * 9999 := Nat.mul_le_mul_left _ (by omega)
    omega

theorem abs_hundredths_sub_le {k : Nat} (hk : k < twoTo 53) :
    |((ofNat k).div (ofNat 100)).magnitude - k / 100| ≤ k / 100 / 2 ^ 53 := by
  have hhundred : IsRounded (100 : Nat) (ofNat 100) := isRounded_ofNat (by decide) (by decide)
  rcases Nat.eq_zero_or_pos k with rfl | hsome
  · have hnone : ofNat 0 = zero false := rfl
    rw [hnone, zero_div_eq false hhundred.finite hhundred.nonzero, magnitude_zero]
    simp
  · have hmagnitude : (ofNat 100).magnitude = 100 := magnitude_ofNat (by decide) (by decide)
    have hone : (1 : ℚ) ≤ k := by exact_mod_cast hsome
    have htop : (k : ℚ) < 2 ^ 53 := by exact_mod_cast hk
    have hordinary : IsOrdinary ((k : ℚ) / 100) := isOrdinary_of_le (by linarith) (by linarith)
    rw [← magnitude_ofNat hsome hk, ← hmagnitude] at hordinary ⊢
    exact (isRounded_div (isRounded_ofNat hsome hk).finite hhundred.finite hhundred.nonzero
      hordinary).abs_sub_le

/-- Different numbers of hundredths have different rates. -/
theorem hundredths_injective {j k : Nat} (hj : j ≤ 10000) (hk : k ≤ 10000)
    (h : (ofNat j).div (ofNat 100) = (ofNat k).div (ofNat 100)) : j = k := by
  have h53 : 10000 < twoTo 53 := by decide
  obtain ⟨hjLow, hjHigh⟩ := abs_le.1 (abs_hundredths_sub_le (k := j) (by omega))
  obtain ⟨hkLow, hkHigh⟩ := abs_le.1 (abs_hundredths_sub_le (k := k) (by omega))
  rw [h] at hjLow hjHigh
  have hjTop : (j : ℚ) ≤ 10000 := by exact_mod_cast hj
  have hkTop : (k : ℚ) ≤ 10000 := by exact_mod_cast hk
  have hjk : (j : ℚ) < k + 1 := by linarith
  have hkj : (k : ℚ) < j + 1 := by linarith
  exact Nat.le_antisymm (Nat.lt_succ_iff.1 (by exact_mod_cast hjk))
    (Nat.lt_succ_iff.1 (by exact_mod_cast hkj))

namespace Summary

variable {rs : List ScenarioResult}

theorem successRate_nil (cancelled : Bool) : (ofResults [] cancelled).successRate = ofNat 0 := rfl

theorem exists_successRate (cancelled : Bool) (hne : rs ≠ []) (hlength : rs.length < twoTo 32) :
    ∃ k, IsNearest (rs.countP ScenarioResult.passed) rs.length k ∧
      (ofResults rs cancelled).successRate = (ofNat k).div (ofNat 100) :=
  exists_rate List.countP_le_length hlength (List.length_pos_of_ne_nil hne)

/-- In a list that is not too long the rate is a hundred exactly when every scenario has passed. -/
theorem successRate_eq_hundred_iff (cancelled : Bool) (hne : rs ≠ [])
    (hlength : rs.length < 20000) :
    (ofResults rs cancelled).successRate = ofNat 100 ↔ ∀ r ∈ rs, r.status = .passed := by
  have hpos : 0 < rs.length := List.length_pos_of_ne_nil hne
  have h32 : 20000 < twoTo 32 := by decide
  obtain ⟨k, hk, hrate⟩ := exists_successRate cancelled hne (by omega)
  have hall : rs.countP ScenarioResult.passed = rs.length ↔ ∀ r ∈ rs, r.status = .passed := by
    rw [List.countP_eq_length]
    simp [ScenarioResult.passed]
  have hhundred : (ofNat 10000).div (ofNat 100) = ofNat 100 := by decide +kernel
  rw [hrate, ← hall, ← hk.eq_tenThousand_iff List.countP_le_length hpos hlength, ← hhundred]
  constructor
  · exact hundredths_injective (hk.le_tenThousand List.countP_le_length hpos) (Nat.le_refl _)
  · rintro rfl
    rfl

/-- In a longer list one failure may be lost in rounding. -/
example : rate 19999 20000 = ofNat 100 := by decide +kernel

end Summary
end Report

namespace Run

open Binary64 Report

/-- Whatever becomes of a run, the rate in its report is that of the scenarios listed there. -/
theorem successRate_of_run {σ : Type} (w : World σ)
    (schedule : Crew.Schedule σ (Option ScenarioResult)) (plan : Config.Plan) (tree : Files.Tree)
    (runId : String) (st : State σ)
    (hlength : (run w schedule plan tree runId st).1.scenarios.length < twoTo 32) :
    let report := (run w schedule plan tree runId st).1
    (report.scenarios = [] → report.summary.successRate = ofNat 0) ∧
      (report.scenarios ≠ [] → ∃ k,
        IsNearest (report.scenarios.countP ScenarioResult.passed) report.scenarios.length k ∧
          report.summary.successRate = (ofNat k).div (ofNat 100)) := by
  obtain ⟨rs, o, -, hreport⟩ := outcome_of_run w schedule plan tree runId st
  rw [hreport, reportOf_eq] at hlength ⊢
  refine ⟨fun hnil => ?_, fun hne => Summary.exists_successRate _ hne hlength⟩
  simp only at hnil ⊢
  rw [hnil]
  exact Summary.successRate_nil _

end Run
end Walkthrough
