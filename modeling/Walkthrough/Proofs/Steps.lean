import Mathlib.Data.List.Forall2
import Walkthrough.Proofs.Requests

/-!
# Walkthrough.Proofs.Steps

What a step goes through, and what the steps of a scenario go through in order.

* `ends_runStep`: a step looks at the clock, asks whether the run is cancelled, and is attempted
  only if it is not. Its result is sound and tells which of the two happened.
* `ends_runSteps`: the steps before the first that does not pass go through their courses one after
  the other (`Passing`), then comes the course of that step, and the rest only look at the clock.
* `not_begun_of_runSteps`: a step that was not begun is skipped, or it is the next in order and
  failed without an attempt.
-/

namespace Walkthrough

namespace Report.StepResult

/-- The result names the step that it is of. -/
def IsOf (r : StepResult) (step : Scenario.Step) : Prop :=
  r.stepId = step.id ∧ r.stepName = step.name ∧ r.action = step.action.kind

/-- The result says what its status needs, and nothing that the status excludes. -/
def IsSound (r : StepResult) : Prop :=
  match r.status with
  | .passed => r.error = none ∧ 1 ≤ r.attempts
  | .failed => r.error ≠ none
  | .skipped => r.attempts = 0 ∧ r.error = none ∧ r.artifacts = []

/-- The result of a step that was not attempted because the run was cancelled. -/
def IsCancelled (r : StepResult) : Prop :=
  r.status = .failed ∧ r.attempts = 0 ∧ r.error = some (.ofFailure .cancelled)

end Report.StepResult

namespace Run

open Browser Report

theorem one_le_maxAttempts (retries : Nat) : 1 ≤ maxAttempts retries := by
  have hbound : 1 ≤ attemptBound := by decide
  exact Nat.le_min.2 ⟨Nat.le_add_left 1 retries, hbound⟩

namespace Performer

variable {p : Performer} {step : Scenario.Step} {xs : List Exchange}

/-- Who captures works in the session of who makes the calls. -/
def IsUnited (p : Performer) : Prop := p.recorder.session = p.session.id

/-! ## What steps ask -/

section Asks

variable {P : Request → Prop}

theorem asks_mayRetry (hagain : ∀ id number, P (.token (.attempt id number))) (f : Failure)
    (left id next : Nat) : (mayRetry f left id next).Asks P :=
  asks_ite (asks_bind (asks_ask (hagain id next)) fun _ => asks_pure _) (asks_pure false)

/-- What the attempts of a step ask is allowed. -/
structure AllowsAttempts (P : Request → Prop) (p : Performer) : Prop where
  execute : ∀ step, (p.session.execute step).run.Asks P
  again : ∀ id number, P (.token (.attempt id number))
  pictures : p.recorder.AllowsPictures P

namespace AllowsAttempts

variable (h : p.AllowsAttempts P)

include h

theorem asks_tryOnce (step : Scenario.Step) (left attempt : Nat) :
    (p.tryOnce step left attempt).Asks P := by
  refine asks_bind (h.execute step) ?_
  intro e
  cases e with
  | ok u => exact asks_bind (h.pictures.asks_passed _ _ _) fun _ => asks_pure _
  | error f =>
    exact asks_bind (asks_mayRetry h.again _ _ _ _) fun again =>
      asks_bind (h.pictures.asks_failed _ _ _ _) fun _ => asks_pure _

theorem asks_tryStep (step : Scenario.Step) (left attempt : Nat) (artifacts : List Artifact) :
    (p.tryStep step left attempt artifacts).Asks P := by
  induction left generalizing attempt artifacts with
  | zero => exact asks_bind (h.asks_tryOnce step 0 attempt) fun _ => asks_pure _
  | succ left ih =>
    exact asks_bind (h.asks_tryOnce step (left + 1) attempt) fun once =>
      asks_ite (ih _ _) (asks_pure _)

theorem asks_tryUnless (cancelled : Bool) (step : Scenario.Step) :
    (p.tryUnless cancelled step).Asks P :=
  asks_ite (asks_pure _) (h.asks_tryStep step _ _ _)

end AllowsAttempts

/-- What all steps of a scenario ask is allowed. -/
structure AllowsSteps (P : Request → Prop) (p : Performer) : Prop where
  execute : ∀ step, (p.session.execute step).run.Asks P
  begins : ∀ id, P (.token (.step id))
  again : ∀ id number, P (.token (.attempt id number))
  captures : p.recorder.AllowsCaptures P

namespace AllowsSteps

variable (h : p.AllowsSteps P)

include h

theorem attempts : p.AllowsAttempts P :=
  ⟨h.execute, h.again, h.captures.toAllowsPictures⟩

theorem asks_runStep (recording : Bool) (step : Scenario.Step) :
    (p.runStep recording step).Asks P :=
  asks_bind (asks_ask h.captures.now) fun _ =>
    asks_bind (asks_ask (h.begins step.id)) fun _ =>
      asks_bind (h.attempts.asks_tryUnless _ _) fun _ =>
        asks_bind (h.captures.asks_cut _ _) fun _ =>
          asks_bind (asks_ask h.captures.now) fun _ => asks_pure _

theorem asks_skipAll (steps : List Scenario.Step) : (skipAll steps).Asks P := by
  induction steps with
  | nil => exact asks_pure []
  | cons step rest ih =>
    exact asks_bind (asks_bind (asks_ask h.captures.now) fun _ => asks_pure _) fun _ =>
      asks_bind ih fun _ => asks_pure _

theorem asks_runSteps (recording : Bool) (steps : List Scenario.Step) :
    (p.runSteps recording steps).Asks P := by
  induction steps generalizing recording with
  | nil => exact asks_pure _
  | cons step rest ih =>
    refine asks_bind (h.asks_runStep recording step) fun r => ?_
    exact asks_ite (asks_bind (ih r.2) fun _ => asks_pure _)
      (asks_bind (h.asks_skipAll rest) fun _ => asks_pure _)

theorem asks_runAll (steps : List Scenario.Step) : (p.runAll steps).Asks P :=
  asks_bind h.captures.asks_start fun recording =>
    asks_bind (h.asks_runSteps recording steps) fun _ =>
      asks_bind (h.captures.asks_finish _) fun _ => asks_pure _

end AllowsSteps

end Asks

/-! ## One step -/

/-- Captures are asked for in the session of the step. -/
theorem IsUnited.captures (hp : p.IsUnited) :
    p.recorder.AllowsCaptures (Request.IsInStep p.session.id) :=
  p.recorder.allows_isCapture.mono fun _ hq => Request.IsCapture.isInStep (hp ▸ hq)

theorem IsUnited.attempts (hp : p.IsUnited) : p.AllowsAttempts (Request.IsInStep p.session.id) where
  execute step := (p.session.asks_execute step).mono fun _ => Request.IsAttempt.isInStep
  again id number := ⟨id, number, rfl⟩
  pictures := hp.captures.toAllowsPictures

/-- Attempts are only added. -/
theorem le_attempts_of_tryStep {left attempt : Nat} {artifacts : List Artifact} {tried : Tried}
    (h : Ends (p.tryStep step left attempt artifacts) xs tried) : attempt ≤ tried.attempts := by
  induction left generalizing attempt artifacts xs with
  | zero =>
    obtain ⟨once, _, _, -, h', -⟩ := ends_bind.1 h
    obtain ⟨-, rfl⟩ := ends_pure.1 h'
    exact Nat.le_refl _
  | succ left ih =>
    obtain ⟨once, _, _, -, h', -⟩ := ends_bind.1 h
    dsimp only at h'
    split at h'
    · exact Nat.le_of_succ_le (ih h')
    · obtain ⟨-, rfl⟩ := ends_pure.1 h'
      exact Nat.le_refl _

/-- A step has attempts unless the run is cancelled. -/
theorem ends_tryUnless {cancelled : Bool} {tried : Tried}
    (h : Ends (p.tryUnless cancelled step) xs tried) :
    if cancelled then tried = ⟨0, some .cancelled, []⟩ else 1 ≤ tried.attempts := by
  cases cancelled with
  | true => exact (ends_pure.1 h).2
  | false => exact le_attempts_of_tryStep h

/-- What a step goes through: the clock, the question whether the run is cancelled, and what is
asked in a step. -/
theorem ends_runStep (hp : p.IsUnited) {recording after : Bool} {r : StepResult}
    (h : Ends (p.runStep recording step) xs (r, after)) :
    ∃ started cancelled ys,
      xs = ⟨.now, started⟩ :: ⟨.token (.step step.id), cancelled⟩ :: ys ∧
      (∀ y ∈ ys, y.request.IsInStep p.session.id) ∧
      r.IsOf step ∧ r.IsSound ∧ r.status ≠ .skipped ∧ (cancelled = true → r.IsCancelled) := by
  obtain ⟨started, _, h₁, rfl⟩ := ends_ask_bind.1 h
  obtain ⟨cancelled, _, h₂, rfl⟩ := ends_ask_bind.1 h₁
  obtain ⟨tried, us, _, htried, h₃, rfl⟩ := ends_bind.1 h₂
  obtain ⟨⟨segment?, recording'⟩, vs, _, hcut, h₄, rfl⟩ := ends_bind.1 h₃
  obtain ⟨ended, _, h₅, rfl⟩ := ends_ask_bind.1 h₄
  obtain ⟨rfl, hr⟩ := ends_pure.1 h₅
  obtain ⟨rfl, -⟩ := Prod.mk.inj hr
  refine ⟨started, cancelled, _, rfl, ?_, ⟨rfl, rfl, rfl⟩, ?_, ?_, ?_⟩
  · intro y hy
    simp only [List.mem_append, List.mem_singleton] at hy
    rcases hy with hy | hy | rfl
    · exact htried.asks (hp.attempts.asks_tryUnless cancelled step) y hy
    · exact hcut.asks (hp.captures.asks_cut recording step.id) y hy
    · exact .inr trivial
  · have hattempts := ends_tryUnless htried
    cases hf : tried.failure with
    | some f => simp [StepResult.IsSound]
    | none =>
      cases cancelled with
      | true =>
        simp only [if_true] at hattempts
        subst hattempts
        cases hf
      | false => simpa [StepResult.IsSound] using hattempts
  · dsimp only
    split <;> nofun
  · rintro rfl
    have hattempts := ends_tryUnless htried
    simp only [if_true] at hattempts
    subst hattempts
    exact ⟨rfl, rfl, rfl⟩

/-! ## Steps in order -/

/-- A skipped step only looks at the clock. -/
theorem ends_skip {r : StepResult} (h : Ends (skip step) xs r) :
    ∃ moment, xs = [⟨.now, moment⟩] ∧ r.IsOf step ∧ r.IsSound ∧ r.status = .skipped := by
  obtain ⟨moment, _, h', rfl⟩ := ends_ask_bind.1 h
  obtain ⟨rfl, rfl⟩ := ends_pure.1 h'
  exact ⟨moment, rfl, ⟨rfl, rfl, rfl⟩, ⟨rfl, rfl, rfl⟩, rfl⟩

theorem ends_skipAll {steps : List Scenario.Step} {rs : List StepResult}
    (h : Ends (skipAll steps) xs rs) :
    (∀ x ∈ xs, x.request = .now) ∧
      List.Forall₂ (fun step (r : StepResult) => r.IsOf step ∧ r.IsSound ∧ r.status = .skipped)
        steps rs := by
  induction steps generalizing xs rs with
  | nil =>
    obtain ⟨rfl, rfl⟩ := ends_pure.1 h
    exact ⟨List.forall_mem_nil _, .nil⟩
  | cons step rest ih =>
    obtain ⟨r, _, _, hr, h', rfl⟩ := ends_bind.1 h
    obtain ⟨rs, _, _, hrs, h'', rfl⟩ := ends_bind.1 h'
    obtain ⟨rfl, rfl⟩ := ends_pure.1 h''
    obtain ⟨moment, rfl, hof⟩ := ends_skip hr
    obtain ⟨hnow, hrest⟩ := ih hrs
    refine ⟨fun x hx => ?_, .cons hof hrest⟩
    simp only [List.append_nil, List.cons_append, List.nil_append, List.mem_cons] at hx
    rcases hx with rfl | hx
    · rfl
    · exact hnow x hx

theorem skipped_of_skipAll {steps : List Scenario.Step} {rs : List StepResult}
    (h : Ends (skipAll steps) xs rs) : ∀ r ∈ rs, r.status = .skipped := by
  obtain ⟨-, hall⟩ := ends_skipAll h
  exact ((List.forall₂_and_left _ _).1 (hall.flip.imp fun _ _ hr => ⟨hr.2.2, hr⟩)).1

theorem mem_of_getElem?_after {rs₁ rs₂ : List StepResult} {r s : StepResult} {k : Nat}
    (h : (rs₁ ++ r :: rs₂)[k]? = some s) (hk : rs₁.length < k) : s ∈ rs₂ := by
  rw [List.getElem?_append_right (Nat.le_of_lt hk), List.getElem?_cons,
    if_neg (Nat.sub_ne_zero_of_lt hk)] at h
  exact List.mem_of_getElem? h

/-- Steps that all pass, one after the other. -/
inductive Passing (p : Performer) :
    Bool → List Scenario.Step → List Exchange → List StepResult → Bool → Prop where
  | nil (recording : Bool) : Passing p recording [] [] [] recording
  | cons {before between after : Bool} {step : Scenario.Step} {steps : List Scenario.Step}
      {xs ys : List Exchange} {r : StepResult} {rs : List StepResult} :
      Ends (p.runStep before step) xs (r, between) → r.status = .passed →
      Passing p between steps ys rs after →
      Passing p before (step :: steps) (xs ++ ys) (r :: rs) after

/-- What steps go through. -/
inductive Stepping (p : Performer) (before after : Bool) :
    List Scenario.Step → List Exchange → List StepResult → Prop where
  /-- All of them pass. -/
  | through {steps : List Scenario.Step} {xs : List Exchange} {rs : List StepResult} :
      Passing p before steps xs rs after → Stepping p before after steps xs rs
  /-- One does not pass, and the ones after it are skipped. -/
  | upTo (passing : List Scenario.Step) (step : Scenario.Step) {rest : List Scenario.Step}
      {between : Bool} {xs ys zs : List Exchange} (rs : List StepResult) (r : StepResult)
      {skipped : List StepResult} :
      Passing p before passing xs rs between → Ends (p.runStep between step) ys (r, after) →
      r.status ≠ .passed → Ends (skipAll rest) zs skipped →
      Stepping p before after (passing ++ step :: rest) (xs ++ (ys ++ zs)) (rs ++ r :: skipped)

theorem ends_runSteps {steps : List Scenario.Step} {before after : Bool} {rs : List StepResult}
    (h : Ends (p.runSteps before steps) xs (rs, after)) : Stepping p before after steps xs rs := by
  induction steps generalizing xs before rs with
  | nil =>
    obtain ⟨rfl, hrs⟩ := ends_pure.1 h
    obtain ⟨rfl, rfl⟩ := Prod.mk.inj hrs
    exact .through (.nil _)
  | cons step steps ih =>
    obtain ⟨⟨r, between⟩, ys, _, hr, h', rfl⟩ := ends_bind.1 h
    dsimp only at h'
    split at h'
    · next hpassed =>
      obtain ⟨⟨rs', after'⟩, zs, _, hrs, h'', rfl⟩ := ends_bind.1 h'
      obtain ⟨rfl, hrs'⟩ := ends_pure.1 h''
      obtain ⟨rfl, rfl⟩ := Prod.mk.inj hrs'
      rw [List.append_nil]
      cases ih hrs with
      | through hall => exact .through (.cons hr hpassed hall)
      | upTo passing step' rs₁ r' hpassing hr' hnot hskip =>
        rw [← List.append_assoc]
        exact .upTo (step :: passing) step' (r :: rs₁) r' (.cons hr hpassed hpassing) hr' hnot hskip
    · next hnot =>
      obtain ⟨rs', zs, _, hrs, h'', rfl⟩ := ends_bind.1 h'
      obtain ⟨rfl, hrs'⟩ := ends_pure.1 h''
      obtain ⟨rfl, rfl⟩ := Prod.mk.inj hrs'
      rw [List.append_nil]
      exact .upTo [] step [] r (.nil _) hr hnot hrs

end Performer

/-! ## Steps that were not begun -/

/-- The step that begins with an exchange. -/
def Exchange.step? : Exchange → Option Nat
  | ⟨.token (.step id), (cancelled : Bool)⟩ => if cancelled then none else some id
  | _ => none

/-- The steps that begin in a course. -/
def stepsOf (xs : List Exchange) : List Nat := xs.filterMap Exchange.step?

theorem stepsOf_append (xs ys : List Exchange) : stepsOf (xs ++ ys) = stepsOf xs ++ stepsOf ys :=
  List.filterMap_append

theorem stepsOf_eq_nil {xs : List Exchange} (h : ∀ x ∈ xs, ∀ id, x.request ≠ .token (.step id)) :
    stepsOf xs = [] := by
  refine List.filterMap_eq_nil_iff.2 ?_
  intro x hx
  obtain ⟨r, a⟩ := x
  cases r with
  | token next =>
    cases next with
    | step id => exact absurd rfl (h _ hx id)
    | _ => rfl
  | _ => rfl

theorem Request.IsInStep.ne_step {session : Nat} {r : Request} (h : r.IsInStep session) (id : Nat) :
    r ≠ .token (.step id) := by
  rintro rfl
  obtain ⟨_, _, heq⟩ := h
  cases heq

theorem Request.IsCapture.ne_step {session : Nat} {r : Request} (h : r.IsCapture session)
    (id : Nat) : r ≠ .token (.step id) :=
  h.isInStep.ne_step id

namespace Performer

variable {p : Performer} {step : Scenario.Step} {xs : List Exchange}

/-- A step is begun unless the run is cancelled. -/
theorem stepsOf_runStep (hp : p.IsUnited) {recording after : Bool} {r : StepResult}
    (h : Ends (p.runStep recording step) xs (r, after)) :
    stepsOf xs = [r.stepId] ∨ stepsOf xs = [] ∧ r.IsCancelled := by
  obtain ⟨started, cancelled, ys, rfl, hys, hof, -, -, hcancelled⟩ := ends_runStep hp h
  have hnone : stepsOf ys = [] := stepsOf_eq_nil fun y hy id => (hys y hy).ne_step id
  cases cancelled with
  | true => exact .inr ⟨hnone, hcancelled rfl⟩
  | false =>
    refine .inl ?_
    rw [hof.1]
    exact congrArg (step.id :: ·) hnone

theorem Passing.stepsOf (hp : p.IsUnited) {before after : Bool} {steps : List Scenario.Step}
    {rs : List StepResult} (h : Passing p before steps xs rs after) :
    Run.stepsOf xs = rs.map (·.stepId) := by
  induction h with
  | nil _ => rfl
  | cons hr hpassed _ ih =>
    rcases stepsOf_runStep hp hr with hstep | ⟨-, hfailed, -⟩
    · rw [stepsOf_append, hstep, ih]
      rfl
    · rw [hpassed] at hfailed
      cases hfailed

end Performer
end Run
end Walkthrough
