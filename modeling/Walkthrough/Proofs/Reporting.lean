import Mathlib.Algebra.GroupWithZero.Nat
import Mathlib.Data.Nat.Basic
import Walkthrough.Proofs.Calm
import Walkthrough.Proofs.Ordering

/-!
# Walkthrough.Proofs.Reporting

What the report of a run says, in both ways of a run and under every schedule.

* `ordered_of_perm`: whatever the order in which results came, they are listed by their places.
* `counts_ofResults`: the summary counts what is listed.
* `Outcome.lists`: the report lists the results of the turns of the selected scenarios.
* `report_of_run`: all of this for a run.
-/

namespace Walkthrough

namespace Report

/-- The numbers of a summary are those of a list of results. -/
structure Summary.Counts (s : Summary) (rs : List ScenarioResult) : Prop where
  totalScenarios : s.totalScenarios = rs.length
  passedScenarios : s.passedScenarios = rs.countP (·.status = .passed)
  failedScenarios : s.failedScenarios = rs.countP (·.status = .failed)
  totalSteps : s.totalSteps = (rs.map fun r => r.steps.length).sum
  passedSteps : s.passedSteps = (rs.map fun r => r.steps.countP (·.status = .passed)).sum
  failedSteps : s.failedSteps = (rs.map fun r => r.steps.countP (·.status = .failed)).sum
  skippedSteps : s.skippedSteps = (rs.map fun r => r.steps.countP (·.status = .skipped)).sum

theorem counts_ofResults (rs : List ScenarioResult) (cancelled : Bool) :
    (Summary.ofResults rs cancelled).Counts rs where
  totalScenarios := rfl
  passedScenarios := rfl
  failedScenarios := by
    refine List.countP_congr ?_
    intro r _
    cases h : r.status <;> simp [ScenarioResult.passed, h]
  totalSteps := List.length_flatMap
  passedSteps := List.countP_flatMap
  failedSteps := List.countP_flatMap
  skippedSteps := List.countP_flatMap

theorem passed_ofResults_iff (rs : List ScenarioResult) (cancelled : Bool) :
    (Summary.ofResults rs cancelled).passed = true ↔
      cancelled = false ∧ ∀ r ∈ rs, r.status = .passed := by
  simp [Summary.ofResults, ScenarioResult.passed]

namespace Collector

theorem pairwise_sorted (rs : List (Nat × ScenarioResult)) :
    (rs.mergeSort fun a b => a.1 ≤ b.1).Pairwise fun a b => a.1 ≤ b.1 :=
  (isOrderedBy_mergeSort Prod.fst rs).ordered

/-- Results are listed by their places, whatever the order in which they came. -/
theorem ordered_of_perm {rs l : List (Nat × ScenarioResult)} (hperm : rs.Perm l)
    (hsorted : l.Pairwise fun a b => a.1 < b.1) : ordered rs = l.map (·.2) := by
  have hplaces : (l.map Prod.fst).Nodup := List.pairwise_map.2 (hsorted.imp Nat.ne_of_lt)
  have hmerge := List.mergeSort_perm rs fun a b => a.1 ≤ b.1
  have heq : rs.mergeSort (fun a b => a.1 ≤ b.1) = l := by
    refine List.Perm.eq_of_pairwise ?_ (pairwise_sorted rs) (hsorted.imp Nat.le_of_lt)
      (hmerge.trans hperm)
    intro a b ha hb hab hba
    exact List.inj_on_of_nodup_map hplaces ((hmerge.trans hperm).mem_iff.1 ha) hb
      (Nat.le_antisymm hab hba)
  rw [ordered, heq]

theorem foldl_append (rs : List (Nat × ScenarioResult)) {c : Collector} (h : c.frozen = none) :
    rs.foldl (fun c r => (c.append r.1 r.2).2) c = { c with entries := c.entries ++ rs } := by
  induction rs generalizing c with
  | nil => simp
  | cons r rest ih =>
    have happend : (c.append r.1 r.2).2 = { c with entries := c.entries ++ [r] } := by
      simp [append, h]
    have hopen : (c.append r.1 r.2).2.frozen = none := by rw [happend, h]
    rw [List.foldl_cons, ih hopen, happend]
    simp

end Collector
end Report

namespace Run

open Report

theorem reportOf_eq (plan : Config.Plan) (runId : String) (startedAt finishedAt : Timestamp)
    (cancelled : Bool) (rs : List (Nat × ScenarioResult)) :
    reportOf plan runId startedAt finishedAt cancelled rs =
      { runId := runId, startedAt := startedAt, finishedAt := finishedAt
        environmentId := plan.environment.id, scenarios := Collector.ordered rs
        summary := Summary.ofResults (Collector.ordered rs) cancelled
        cancelled := cancelled } := by
  simp only [reportOf]
  rw [Collector.foldl_append rs rfl]
  rfl

/-! ## Places -/

theorem pairwise_placedResults (o : Nat → Option ScenarioResult) {places : List Nat}
    (h : places.Pairwise (· < ·)) : (placedResults o places).Pairwise fun a b => a.1 < b.1 := by
  refine h.filterMap _ ?_
  intro i j hij a ha b hb
  obtain ⟨r, -, rfl⟩ := Option.map_eq_some_iff.1 ha
  obtain ⟨s, -, rfl⟩ := Option.map_eq_some_iff.1 hb
  exact hij

/-- The results and the places that have them. -/
theorem forall₂_placedResults (o : Nat → Option ScenarioResult) (places : List Nat) :
    List.Forall₂ (fun i r => o i = some r) (places.filter fun i => (o i).isSome)
      ((placedResults o places).map (·.2)) := by
  induction places with
  | nil => exact .nil
  | cons i rest ih =>
    cases hi : o i with
    | none => simpa [placedResults, hi] using ih
    | some r => simpa [placedResults, hi] using ih

/-- What is kept is a beginning when nothing is kept after what is not. -/
theorem filter_isPrefix {l : List Nat} {p : Nat → Bool}
    (h : l.Pairwise fun i j => p i = false → p j = false) : l.filter p <+: l := by
  induction l with
  | nil => exact List.prefix_refl _
  | cons i rest ih =>
    obtain ⟨hi, hrest⟩ := List.pairwise_cons.1 h
    cases hp : p i with
    | true =>
      rw [List.filter_cons_of_pos hp]
      exact List.cons_prefix_cons.2 ⟨rfl, ih hrest⟩
    | false =>
      rw [List.filter_cons_of_neg (by simp [hp]), List.filter_eq_nil_iff.2]
      · exact List.nil_prefix
      · intro j hj
        simp [hi j hj hp]

/-! ## The report of a run -/

variable {σ : Type} {plan : Config.Plan} {tree : Files.Tree}

theorem name_of_scenario {entry : Config.Entry} {xs : List Exchange} {r : ScenarioResult}
    (h : Ends (scenario plan tree entry) xs r) :
    r.name = entry.name ∧ r.scenarioFile = entry.scenarioFile := by
  cases ends_scenario h with
  | unloaded => exact ⟨rfl, rfl⟩
  | unopened => exact ⟨rfl, rfl⟩
  | opened => exact ⟨rfl, rfl⟩

/-- The result is of the entry that is selected at a place, and the end of a course of its
scenario. -/
def IsResultAt (plan : Config.Plan) (tree : Files.Tree) (place : Nat) (r : ScenarioResult) : Prop :=
  ∃ entry xs, plan.selected[place]? = some entry ∧ entry.isSelected = true ∧ r.name = entry.name ∧
    r.scenarioFile = entry.scenarioFile ∧ Ends (scenario plan tree entry) xs r

/-- The report lists the results of scenarios at some places of the selection, of all unless the run
is cancelled. -/
structure Lists (plan : Config.Plan) (tree : Files.Tree) (places : List Nat) (report : Report)
    (cancelled : Bool) : Prop where
  sublist : places.Sublist (List.range plan.selected.length)
  each : List.Forall₂ (IsResultAt plan tree) places report.scenarios
  complete : cancelled = false → places = List.range plan.selected.length
  inOrder : isParallel plan = false → places <+: List.range plan.selected.length
  flag : report.cancelled = cancelled
  counts : report.summary.Counts report.scenarios
  passed : report.passed = true ↔ cancelled = false ∧ ∀ place < plan.selected.length,
    ∃ r, (place, r) ∈ places.zip report.scenarios ∧ r.status = .passed

theorem isResultAt_of_turn {entry : Config.Entry} {place : Nat} {st : State σ} {es : List Event}
    {r : ScenarioResult} (hget : plan.selected[place]? = some entry)
    (h : Turn plan tree entry st es (some r)) : IsResultAt plan tree place r := by
  obtain ⟨xs, hends, -⟩ := h
  obtain ⟨-, hselected⟩ := Config.mem_select.1 (List.mem_of_getElem? hget)
  rcases ends_admitted hends with ⟨-, hnone⟩ | ⟨ys, r', -, hr, hys⟩
  · cases hnone
  · obtain rfl := Option.some.inj hr
    obtain ⟨hname, hfile⟩ := name_of_scenario hys
    exact ⟨entry, ys, hget, hselected, hname, hfile, hys⟩

/-- The places that have results. -/
def placesOf (plan : Config.Plan) (o : Nat → Option ScenarioResult) : List Nat :=
  (List.range plan.selected.length).filter fun i => (o i).isSome

section Outcome

variable {start : Bool} {rs : List (Nat × ScenarioResult)} {st : State σ}
  {o : Nat → Option ScenarioResult}

theorem Outcome.results_by_place (h : Outcome start plan tree rs st o) :
    List.Forall₂ (fun i r => i < plan.selected.length ∧ o i = some r) (placesOf plan o)
      (Collector.ordered rs) := by
  have hsorted := pairwise_placedResults o
    (List.pairwise_lt_range (n := plan.selected.length))
  rw [Collector.ordered_of_perm h.results hsorted]
  refine (List.forall₂_and_left _ _).2 ⟨fun i hi => ?_, forall₂_placedResults o _⟩
  exact List.mem_range.1 (List.mem_of_mem_filter hi)

/-- What is listed at a place is the result of its turn. -/
theorem Outcome.mem_zip_iff (h : Outcome start plan tree rs st o) {i : Nat} {r : ScenarioResult} :
    (i, r) ∈ (placesOf plan o).zip (Collector.ordered rs) ↔
      i < plan.selected.length ∧ o i = some r := by
  obtain ⟨hlength, hzip⟩ := List.forall₂_iff_zip.1 h.results_by_place
  refine ⟨fun hir => hzip hir, fun ⟨hi, hr⟩ => ?_⟩
  have hplace : i ∈ placesOf plan o :=
    List.mem_filter.2 ⟨List.mem_range.2 hi, by rw [hr]; rfl⟩
  rw [← List.map_fst_zip (Nat.le_of_eq hlength)] at hplace
  obtain ⟨⟨i, r'⟩, hir, rfl⟩ := List.mem_map.1 hplace
  obtain rfl := Option.some.inj ((hzip hir).2.symm.trans hr)
  exact hir

/-- A scenario without a result got no turn, since the run was cancelled. -/
theorem Outcome.placesOf_eq_range (h : Outcome start plan tree rs st o)
    (hc : st.cancelled = false) : placesOf plan o = List.range plan.selected.length := by
  refine List.filter_eq_self.2 ?_
  intro i hi
  have hturn := h.turns i _ (List.getElem?_eq_getElem (List.mem_range.1 hi))
  cases hr : o i with
  | some r => rfl
  | none =>
    rw [hr] at hturn
    rw [hturn.cancelled] at hc
    cases hc

theorem Outcome.placesOf_isPrefix (h : Outcome start plan tree rs st o)
    (hseq : isParallel plan = false) : placesOf plan o <+: List.range plan.selected.length := by
  refine filter_isPrefix ((h.order hseq).imp fun {i j} hij hi => ?_)
  simp only [Option.isSome_eq_false_iff, Option.isNone_iff_eq_none] at hi ⊢
  exact hij hi

/-- All that is listed has passed exactly when every selected scenario has passed. -/
theorem Outcome.all_passed_iff (h : Outcome start plan tree rs st o) (hc : st.cancelled = false) :
    (∀ r ∈ Collector.ordered rs, r.status = .passed) ↔ ∀ place < plan.selected.length,
      ∃ r, (place, r) ∈ (placesOf plan o).zip (Collector.ordered rs) ∧ r.status = .passed := by
  constructor
  · intro hall i hi
    have hplace : i ∈ placesOf plan o := h.placesOf_eq_range hc ▸ List.mem_range.2 hi
    obtain ⟨-, hsome⟩ := List.mem_filter.1 hplace
    obtain ⟨r, hr⟩ := Option.isSome_iff_exists.1 hsome
    have hir := h.mem_zip_iff.2 ⟨hi, hr⟩
    exact ⟨r, hir, hall r (List.of_mem_zip hir).2⟩
  · intro hall r hr
    have hlength := h.results_by_place.length_eq
    rw [← List.map_snd_zip (Nat.le_of_eq hlength.symm)] at hr
    obtain ⟨⟨i, r⟩, hir, rfl⟩ := List.mem_map.1 hr
    obtain ⟨hi, hresult⟩ := h.mem_zip_iff.1 hir
    -- A place has one result.
    obtain ⟨r', hir', hpassed⟩ := hall i hi
    obtain rfl := Option.some.inj ((h.mem_zip_iff.1 hir').2.symm.trans hresult)
    exact hpassed

theorem Outcome.lists (h : Outcome start plan tree rs st o) (runId : String)
    (startedAt finishedAt : Timestamp) :
    Lists plan tree (placesOf plan o) (reportOf plan runId startedAt finishedAt st.cancelled rs)
      st.cancelled := by
  rw [reportOf_eq]
  refine ⟨List.filter_sublist, ?_, h.placesOf_eq_range, h.placesOf_isPrefix, rfl,
    counts_ofResults _ _, ?_⟩
  · refine h.results_by_place.imp ?_
    intro i r hir
    obtain ⟨hi, hr⟩ := hir
    have hturn := h.turns i _ (List.getElem?_eq_getElem hi)
    rw [hr] at hturn
    exact isResultAt_of_turn (List.getElem?_eq_getElem hi) hturn
  · exact (passed_ofResults_iff _ _).trans (and_congr_right h.all_passed_iff)

end Outcome

end Run
end Walkthrough
