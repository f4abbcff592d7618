import Mathlib.Algebra.GroupWithZero.Nat
import Walkthrough.Proofs.Clock
import Walkthrough.Proofs.Limits
import Walkthrough.Proofs.StepResults
import Walkthrough.Proofs.Turns

/-!
# Walkthrough.Proofs.Promptness

A browser that hangs does not hang a scenario.

* `within_runStep`: a step takes no longer than its attempts and the cut of its recording.
* `late_runStep`, `lingers_runStep`: how long it goes on when the run is cancelled before it begins
  and when it is cancelled in its course; `lingers_runSteps` puts the steps together.
* `promptness_of_scenario`: both bounds for a scenario whose session has been opened.
-/

namespace Walkthrough
namespace Run

open Browser Report

/-! ## Times -/

/-- The milliseconds that one attempt of a step may take, with its screenshot. -/
def Limits.attemptMillis (limits : Limits) (step : Scenario.Step) : Nat :=
  limits.pageLoad.ceilMillis + limits.elementWait.ceilMillis + 4 * limits.script.ceilMillis +
    step.action.idle.ceilMillis + step.waitTime.ceilMillis

/-- The milliseconds that a step may take. -/
def Limits.stepMillis (limits : Limits) (retries : Nat) (step : Scenario.Step) : Nat :=
  maxAttempts retries * limits.attemptMillis step + 2 * limits.script.ceilMillis

namespace Performer

/-- Every capture has the limit of a call on the page. -/
def IsEven (p : Performer) : Prop := p.recorder.limit = p.session.limits.script

/-- The end of a step: the cut of its recording, and its result. -/
def conclude (p : Performer) (recording : Bool) (step : Scenario.Step) (started : Moment)
    (tried : Tried) : Program (StepResult × Bool) := do
  let (segment?, recording) ← p.recorder.cut recording step.id
  let ended ← Program.ask .now
  let result : StepResult :=
    { stepId := step.id
      stepName := step.name
      action := step.action.kind
      status := if tried.failure.isNone then .passed else .failed
      attempts := tried.attempts
      durationMs := ended.millis - started.millis
      artifacts := tried.artifacts ++ segment?.toList
      error := tried.failure.map .ofFailure
      startedAt := started.wall }
  return (result, recording)

theorem runStep_eq (p : Performer) (recording : Bool) (step : Scenario.Step) :
    p.runStep recording step = (do
      let started ← Program.ask .now
      let cancelled : Bool ← Program.ask (.token (.step step.id))
      let tried ← p.tryUnless cancelled step
      p.conclude recording step started tried) := rfl

variable {p : Performer} {step : Scenario.Step}

theorem status_of_conclude {recording after : Bool} {started : Moment} {tried : Tried}
    {r : StepResult} {xs : List Exchange}
    (h : Ends (p.conclude recording step started tried) xs (r, after)) :
    r.status = .passed ↔ tried.failure = none := by
  obtain ⟨⟨segment?, recording'⟩, _, _, -, h₁, rfl⟩ := ends_bind.1 h
  obtain ⟨ended, _, h₂, rfl⟩ := ends_ask_bind.1 h₁
  obtain ⟨-, hr⟩ := ends_pure.1 h₂
  obtain ⟨rfl, -⟩ := Prod.mk.inj hr
  cases tried.failure with
  | none => simp
  | some f => simp

theorem within_conclude (hp : p.IsEven) (recording : Bool) (step : Scenario.Step)
    (started : Moment) (tried : Tried) :
    (p.conclude recording step started tried).Within (2 * p.session.limits.script.ceilMillis) := by
  rw [← hp]
  exact within_bind_zero (p.recorder.within_cut recording step.id) fun _ =>
    within_bind_zero within_now fun _ => within_pure _

/-! ## Attempts -/

theorem within_mayRetry (f : Failure) (left id next : Nat) :
    (mayRetry f left id next).Within 0 :=
  within_ite (within_bind_zero (within_token _) fun _ => within_pure _) (within_pure false)

/-- What follows an attempt takes one screenshot. -/
theorem within_afterAttempt (hp : p.IsEven) (step : Scenario.Step) (left attempt : Nat)
    (e : Except Failure Unit) :
    Program.Within (match e with
      | .ok () => do
        let shot? ← p.recorder.passed step.id step.screenshot attempt
        return (⟨none, false, shot?⟩ : Attempted)
      | .error f => do
        let again ← mayRetry f left step.id (attempt + 1)
        let shot? ← p.recorder.failed step.id step.screenshot attempt (!again)
        return ⟨some f, again, shot?⟩) p.session.limits.script.ceilMillis := by
  rw [← hp]
  cases e with
  | ok u => exact within_bind_zero (p.recorder.within_passed _ _ _) fun _ => within_pure _
  | error f =>
    exact within_zero_bind (within_mayRetry _ _ _ _) fun again =>
      within_bind_zero (p.recorder.within_failed _ _ _ _) fun _ => within_pure _

theorem within_tryOnce (hp : p.IsEven) (step : Scenario.Step) (left attempt : Nat) :
    (p.tryOnce step left attempt).Within (p.session.limits.attemptMillis step) := by
  have h := within_bind (p.session.within_execute step) (within_afterAttempt hp step left attempt)
  refine h.mono ?_
  unfold Limits.attemptMillis
  omega

theorem within_tryStep (hp : p.IsEven) (step : Scenario.Step) (left attempt : Nat)
    (artifacts : List Artifact) :
    (p.tryStep step left attempt artifacts).Within
      ((left + 1) * p.session.limits.attemptMillis step) := by
  induction left generalizing attempt artifacts with
  | zero =>
    rw [Nat.zero_add, Nat.one_mul]
    exact within_bind_zero (within_tryOnce hp step 0 attempt) fun _ => within_pure _
  | succ left ih =>
    rw [Nat.succ_mul, Nat.add_comm (_ * _)]
    refine within_bind (within_tryOnce hp step (left + 1) attempt) ?_
    intro once
    exact within_ite (ih _ _) ((within_pure _).mono (Nat.zero_le _))

theorem within_tryUnless (hp : p.IsEven) (cancelled : Bool) (step : Scenario.Step) :
    (p.tryUnless cancelled step).Within
      (maxAttempts p.retries * p.session.limits.attemptMillis step) := by
  refine within_ite ((within_pure _).mono (Nat.zero_le _)) ?_
  have h := within_tryStep hp step (maxAttempts p.retries - 1) 1 []
  rw [Nat.sub_add_cancel (one_le_maxAttempts p.retries)] at h
  exact h

/-- When the run is cancelled before an attempt, a screenshot is all that is left of it. -/
theorem late_tryOnce (hp : p.IsEven) {left attempt t : Nat} {once : Attempted}
    (h : Lasts Late (p.tryOnce step left attempt) t once) :
    t ≤ p.session.limits.script.ceilMillis ∧ once.failure = some .cancelled ∧
      once.again = false := by
  obtain ⟨e, u, v, hu, h', rfl⟩ := lasts_bind.1 h
  obtain rfl := eq_zero_of_late (p.session.asks_execute step) hu
  have hv := (within_afterAttempt hp step left attempt e).late h'
  obtain rfl := p.session.givesUp_execute step 0 e hu
  refine ⟨by omega, ?_⟩
  obtain ⟨again, x, y, hx, h'', -⟩ := lasts_bind.1 h'
  obtain ⟨-, rfl⟩ := lasts_pure.1 hx
  obtain ⟨shot?, _, _, -, h₃, -⟩ := lasts_bind.1 h''
  obtain ⟨-, rfl⟩ := lasts_pure.1 h₃
  exact ⟨rfl, rfl⟩

theorem lingers_tryOnce (hp : p.IsEven) {left attempt t : Nat} {once : Attempted}
    (h : Lingers (p.tryOnce step left attempt) t once) :
    t ≤ p.session.limits.script.ceilMillis := by
  rcases lingers_bind h with ⟨e, u, v, hu, hv, rfl⟩ | ⟨e, u, -, ht⟩
  · rw [eq_zero_of_lingers (p.session.asks_execute step) hu, Nat.zero_add]
    exact (within_afterAttempt hp step left attempt e).late hv
  · exact (within_afterAttempt hp step left attempt e).lingers ht

theorem late_tryStep (hp : p.IsEven) {left attempt t : Nat} {artifacts : List Artifact}
    {tried : Tried} (h : Lasts Late (p.tryStep step left attempt artifacts) t tried) :
    t ≤ p.session.limits.script.ceilMillis ∧ tried.failure ≠ none := by
  cases left with
  | zero =>
    obtain ⟨once, u, v, hu, h', rfl⟩ := lasts_bind.1 h
    obtain ⟨hle, hfailure, -⟩ := late_tryOnce hp hu
    obtain ⟨rfl, rfl⟩ := lasts_pure.1 h'
    exact ⟨hle, by simp [hfailure]⟩
  | succ left =>
    obtain ⟨once, u, v, hu, h', rfl⟩ := lasts_bind.1 h
    obtain ⟨hle, hfailure, hagain⟩ := late_tryOnce hp hu
    simp only [hagain, Bool.false_eq_true, if_false] at h'
    obtain ⟨rfl, rfl⟩ := lasts_pure.1 h'
    exact ⟨hle, by simp [hfailure]⟩

/-- The attempt during which the run is cancelled ends, and at most another one gives up. A step
that passes nevertheless did so with the first of them. -/
theorem lingers_tryStep (hp : p.IsEven) {left attempt t : Nat} {artifacts : List Artifact}
    {tried : Tried} (h : Lingers (p.tryStep step left attempt artifacts) t tried) :
    t ≤ 2 * p.session.limits.script.ceilMillis ∧
      (tried.failure = none → t ≤ p.session.limits.script.ceilMillis) := by
  induction left generalizing attempt artifacts with
  | zero =>
    rcases lingers_bind h with ⟨once, u, v, hu, hv, rfl⟩ | ⟨once, u, -, ht⟩
    · have hle := lingers_tryOnce hp hu
      obtain ⟨rfl, -⟩ := lasts_pure.1 hv
      omega
    · have hzero := (within_pure _).lingers ht
      omega
  | succ left ih =>
    rcases lingers_bind h with ⟨once, u, v, hu, hv, rfl⟩ | ⟨once, u, -, ht⟩
    · have hle := lingers_tryOnce hp hu
      dsimp only at hv
      split at hv
      · obtain ⟨hlate, hfailure⟩ := late_tryStep hp hv
        exact ⟨by omega, fun hnone => absurd hnone hfailure⟩
      · obtain ⟨rfl, -⟩ := lasts_pure.1 hv
        omega
    · dsimp only at ht
      split at ht
      · exact ih ht
      · have hzero := (within_pure _).lingers ht
        omega

/-! ## Steps -/

theorem within_runStep (hp : p.IsEven) (recording : Bool) (step : Scenario.Step) :
    (p.runStep recording step).Within (p.session.limits.stepMillis p.retries step) := by
  rw [runStep_eq]
  exact within_zero_bind within_now fun started => within_zero_bind (within_token _) fun cancelled =>
    within_bind (within_tryUnless hp cancelled step) fun tried =>
      within_conclude hp recording step started tried

/-- A step that begins when the run is cancelled fails, and only its recording is cut. -/
theorem late_runStep (hp : p.IsEven) {recording after : Bool} {t : Nat} {r : StepResult}
    (h : Lasts Late (p.runStep recording step) t (r, after)) :
    t ≤ 2 * p.session.limits.script.ceilMillis ∧ r.status ≠ .passed := by
  rw [runStep_eq] at h
  obtain ⟨started, u, _, hu, h₁, rfl⟩ := lasts_ask_bind.1 h
  obtain rfl : u = 0 := hu
  obtain ⟨cancelled, v, _, ⟨hcancelled, hv⟩, h₂, rfl⟩ := lasts_ask_bind.1 h₁
  subst hcancelled hv
  obtain ⟨tried, x, y, htried, h₃, rfl⟩ := lasts_bind.1 h₂
  obtain ⟨rfl, rfl⟩ := lasts_pure.1 htried
  have hle := (within_conclude hp recording step started _).late h₃
  obtain ⟨xs, hends⟩ := h₃.ends
  refine ⟨by omega, fun hpassed => ?_⟩
  cases (status_of_conclude hends).1 hpassed

theorem lingers_runStep (hp : p.IsEven) {recording after : Bool} {t : Nat} {r : StepResult}
    (h : Lingers (p.runStep recording step) t (r, after)) :
    t ≤ 4 * p.session.limits.script.ceilMillis ∧
      (r.status = .passed → t ≤ 3 * p.session.limits.script.ceilMillis) := by
  rw [runStep_eq] at h
  -- The run is cancelled as the step looks at the clock or asks for the token, during its attempts,
  -- or after them.
  rcases lingers_bind h with ⟨started, u, v, hu, hv, rfl⟩ | ⟨started, u, -, h⟩
  · have hzero := within_now.lingers hu
    obtain ⟨hle, hfailed⟩ := late_runStep hp (lasts_ask_bind.2 ⟨started, 0, v, rfl, hv, rfl⟩)
    exact ⟨by omega, fun hpassed => absurd hpassed hfailed⟩
  rcases lingers_bind h with ⟨cancelled, u, v, hu, hv, rfl⟩ | ⟨cancelled, u, -, h⟩
  · have hzero := (within_token _).lingers hu
    obtain ⟨tried, x, y, hx, hy, rfl⟩ := lasts_bind.1 hv
    have hconclude := (within_conclude hp recording step started tried).late hy
    cases cancelled with
    | true =>
      obtain ⟨rfl, rfl⟩ := lasts_pure.1 hx
      omega
    | false =>
      obtain ⟨hle, -⟩ := late_tryStep hp hx
      omega
  rcases lingers_bind h with ⟨tried, u, v, hu, hv, rfl⟩ | ⟨tried, u, -, h⟩
  · have hconclude := (within_conclude hp recording step started tried).late hv
    obtain ⟨xs, hends⟩ := hv.ends
    rw [status_of_conclude hends]
    cases cancelled with
    | true =>
      have hzero := (within_pure _).lingers hu
      omega
    | false =>
      obtain ⟨hle, hpassed⟩ := lingers_tryStep hp hu
      exact ⟨by omega, fun hnone => by have := hpassed hnone; omega⟩
  · have hconclude := (within_conclude hp recording step started tried).lingers h
    omega

theorem within_skipAll (steps : List Scenario.Step) : (skipAll steps).Within 0 := by
  induction steps with
  | nil => exact within_pure []
  | cons step rest ih =>
    exact within_bind_zero (within_bind_zero within_now fun _ => within_pure _) fun _ =>
      within_bind_zero ih fun _ => within_pure _

theorem within_runSteps (hp : p.IsEven) (recording : Bool) (steps : List Scenario.Step) :
    (p.runSteps recording steps).Within
      (steps.map (p.session.limits.stepMillis p.retries)).sum := by
  induction steps generalizing recording with
  | nil => exact within_pure _
  | cons step rest ih =>
    refine within_bind (within_runStep hp recording step) ?_
    rintro ⟨r, after⟩
    refine within_ite ?_ ?_
    · exact within_bind_zero (ih after) fun _ => within_pure _
    · exact (within_bind_zero (within_skipAll rest) fun _ => within_pure _).mono (Nat.zero_le _)

/-- Steps that begin when the run is cancelled: the first of them fails, the rest is skipped. -/
theorem late_runSteps (hp : p.IsEven) {recording : Bool} {steps : List Scenario.Step} {t : Nat}
    {a : List StepResult × Bool} (h : Lasts Late (p.runSteps recording steps) t a) :
    t ≤ 2 * p.session.limits.script.ceilMillis := by
  cases steps with
  | nil =>
    obtain ⟨rfl, -⟩ := lasts_pure.1 h
    exact Nat.zero_le _
  | cons step rest =>
    obtain ⟨⟨r, after⟩, u, v, hu, h', rfl⟩ := lasts_bind.1 h
    obtain ⟨hle, hfailed⟩ := late_runStep hp hu
    dsimp only at h'
    rw [if_neg hfailed] at h'
    have hzero := (within_bind_zero (within_skipAll rest) fun _ => within_pure _).late h'
    omega

theorem lingers_runSteps (hp : p.IsEven) {recording : Bool} {steps : List Scenario.Step} {t : Nat}
    {a : List StepResult × Bool} (h : Lingers (p.runSteps recording steps) t a) :
    t ≤ 5 * p.session.limits.script.ceilMillis := by
  induction steps generalizing recording a with
  | nil => exact ((within_pure _).mono (Nat.zero_le _)).lingers h
  | cons step rest ih =>
    rcases lingers_bind h with ⟨⟨r, after⟩, u, v, hu, hv, rfl⟩ | ⟨⟨r, after⟩, u, -, h'⟩
    · obtain ⟨hle, hpassed⟩ := lingers_runStep hp hu
      dsimp only at hv
      split at hv
      · next hr =>
        obtain ⟨b, x, y, hx, hy, rfl⟩ := lasts_bind.1 hv
        obtain ⟨rfl, -⟩ := lasts_pure.1 hy
        have hlate := late_runSteps hp hx
        have := hpassed hr
        omega
      · have hzero := (within_bind_zero (within_skipAll rest) fun _ => within_pure _).late hv
        omega
    · dsimp only at h'
      split at h'
      · rcases lingers_bind h' with ⟨b, x, y, hx, hy, rfl⟩ | ⟨b, x, -, hy⟩
        · obtain ⟨rfl, -⟩ := lasts_pure.1 hy
          exact ih hx
        · exact ((within_pure _).mono (Nat.zero_le _)).lingers hy
      · have hzero := (within_bind_zero (within_skipAll rest) fun _ => within_pure _).lingers h'
        omega

theorem within_runAll (hp : p.IsEven) (steps : List Scenario.Step) :
    (p.runAll steps).Within
      (2 * p.session.limits.script.ceilMillis +
        (steps.map (p.session.limits.stepMillis p.retries)).sum) := by
  have h := within_bind p.recorder.within_start fun before =>
    within_bind (within_runSteps hp before steps) fun a =>
      within_bind_zero (p.recorder.within_finish a.2) fun artifacts => within_pure (a.1, artifacts)
  rw [hp] at h
  exact h.mono (by omega)

theorem lingers_runAll (hp : p.IsEven) {steps : List Scenario.Step} {t : Nat}
    {a : List StepResult × List Artifact} (h : Lingers (p.runAll steps) t a) :
    t ≤ 6 * p.session.limits.script.ceilMillis := by
  have finish (rs : List StepResult) (after : Bool) :
      (p.recorder.finish after >>= fun artifacts => pure (rs, artifacts)).Within
        p.session.limits.script.ceilMillis := by
    rw [← hp]
    exact within_bind_zero (p.recorder.within_finish after) fun _ => within_pure _
  rcases lingers_bind h with ⟨before, u, v, hu, hv, rfl⟩ | ⟨before, u, -, h⟩
  · have hstart := p.recorder.within_start.lingers hu
    rw [hp] at hstart
    obtain ⟨⟨rs, after⟩, x, y, hx, hy, rfl⟩ := lasts_bind.1 hv
    have hsteps := late_runSteps hp hx
    have hfinish := (finish rs after).late hy
    omega
  rcases lingers_bind h with ⟨⟨rs, after⟩, u, v, hu, hv, rfl⟩ | ⟨⟨rs, after⟩, u, -, h⟩
  · have hsteps := lingers_runSteps hp hu
    have hfinish := (finish rs after).late hv
    omega
  · have hfinish := (finish rs after).lingers h
    omega

end Performer

/-! ## Scenarios -/

section Scenario

variable {plan : Config.Plan} {tree : Files.Tree} {entry : Config.Entry} {d : Scenario.Definition}

theorem isEven_performer (plan : Config.Plan) (name : String) (session : Nat) :
    (performer plan name session).IsEven := rfl

theorem within_close (entry : Config.Entry) (started : Moment) (session : Nat)
    (a : List StepResult × List Artifact) :
    (do
      let _ ← Program.ask (.shielded session .close closeLimit)
      let ended ← Program.ask .now
      return resultOf entry started ended a.1 a.2 : Program ScenarioResult).Within 10000 :=
  within_bind_zero (within_shielded session .close closeLimit) fun _ =>
    within_bind_zero within_now fun _ => within_pure _

theorem within_inSession (plan : Config.Plan) (entry : Config.Entry) (started : Moment)
    (d : Scenario.Definition) (session : Nat) :
    (inSession plan entry started d session).Within
      (2 * plan.environment.timeouts.script.ceilMillis +
        (d.steps.map ((Limits.ofTimeouts plan.environment.timeouts).stepMillis
          plan.master.framework.maxRetryAttempts)).sum + 10000) :=
  within_bind (Performer.within_runAll (isEven_performer plan d.name session) d.steps)
    (within_close entry started session)

theorem lingers_inSession {started : Moment} {session t : Nat} {r : ScenarioResult}
    (h : Lingers (inSession plan entry started d session) t r) :
    t ≤ 6 * plan.environment.timeouts.script.ceilMillis + 10000 := by
  rcases lingers_bind h with ⟨a, u, v, hu, hv, rfl⟩ | ⟨a, u, -, h⟩
  · have hall := Performer.lingers_runAll (isEven_performer plan d.name session) hu
    have hclose := (within_close entry started session a).late hv
    exact Nat.add_le_add hall hclose
  · exact Nat.le_add_left_of_le ((within_close entry started session a).lingers h)

theorem opensNothing_inSession (plan : Config.Plan) (entry : Config.Entry) (started : Moment)
    (d : Scenario.Definition) (session : Nat) :
    (inSession plan entry started d session).Asks (· ≠ .openSession) := by
  have hall := (isUnited_performer plan d.name session).steps.asks_runAll d.steps
  refine asks_inSession nofun nofun (hall.mono fun r hr => ?_) started
  rintro rfl
  exact hr.elim False.elim False.elim

/-- A scenario that was loaded, when its session has come or not. -/
def afterOpening (plan : Config.Plan) (entry : Config.Entry) (d : Scenario.Definition)
    (started : Moment) : Option (Except Browser.Fault Nat) → Program ScenarioResult
  | none => abort entry started .cancelled
  | some (.error f) => abort entry started (.ofBrowser f)
  | some (.ok session) => inSession plan entry started d session

theorem scenario_eq (hload : Scenario.load plan.environment tree entry = .ok d) :
    scenario plan tree entry = (do
      let started ← Program.ask .now
      let answer ← Program.ask .openSession
      afterOpening plan entry d started answer) := by
  unfold scenario
  simp only [hload]
  refine congrArg (Program.perform .now) (funext fun started => ?_)
  refine congrArg (Program.perform .openSession) (funext fun answer => ?_)
  match answer with
  | none => rfl
  | some (.error f) => rfl
  | some (.ok session) => rfl

theorem within_afterOpening (plan : Config.Plan) (entry : Config.Entry) (d : Scenario.Definition)
    (started : Moment) (answer : Option (Except Browser.Fault Nat)) :
    (afterOpening plan entry d started answer).Within
      (2 * plan.environment.timeouts.script.ceilMillis +
        (d.steps.map ((Limits.ofTimeouts plan.environment.timeouts).stepMillis
          plan.master.framework.maxRetryAttempts)).sum + 10000) := by
  have habort (f : Failure) : (abort entry started f).Within 0 :=
    within_bind_zero within_now fun _ => within_pure _
  match answer with
  | none => exact (habort _).mono (Nat.zero_le _)
  | some (.error f) => exact (habort _).mono (Nat.zero_le _)
  | some (.ok session) => exact within_inSession plan entry started d session

theorem lingers_afterOpening {started : Moment} {answer : Option (Except Browser.Fault Nat)}
    {t : Nat} {r : ScenarioResult} (h : Lingers (afterOpening plan entry d started answer) t r) :
    t ≤ 6 * plan.environment.timeouts.script.ceilMillis + 10000 := by
  have habort (f : Failure) : (abort entry started f).Within 0 :=
    within_bind_zero within_now fun _ => within_pure _
  match answer, h with
  | none, h => exact Nat.le_trans ((habort _).lingers h) (Nat.zero_le _)
  | some (.error f), h => exact Nat.le_trans ((habort _).lingers h) (Nat.zero_le _)
  | some (.ok session), h => exact lingers_inSession h

theorem asks_afterOpening (plan : Config.Plan) (entry : Config.Entry) (d : Scenario.Definition)
    (started : Moment) (answer : Option (Except Browser.Fault Nat)) :
    (afterOpening plan entry d started answer).Asks (· ≠ .openSession) := by
  match answer with
  | none => exact asks_abort nofun entry started .cancelled
  | some (.error f) => exact asks_abort nofun entry started (.ofBrowser f)
  | some (.ok session) => exact opensNothing_inSession plan entry started d session

end Scenario

/-- Whatever the browser does and however long it takes, if the store takes no time: a scenario
whose session has been opened ends within the time of its steps, two captures and the end of the
session, and when the run is cancelled meanwhile, within six captures and the end of the session
from then on. -/
theorem promptness_of_scenario {σ : Type} (w : World σ) (hw : w.StoresAtOnce) {plan : Config.Plan}
    {tree : Files.Tree} {entry : Config.Entry} {d : Scenario.Definition}
    (hload : Scenario.load plan.environment tree entry = .ok d) (st : State σ)
    {opened place session : Nat} :
    let limits := Limits.ofTimeouts plan.environment.timeouts
    let after := ((scenario plan tree entry).run w { st with notes := [] }).2
    .event opened place (.opened session) ∈ after.notes →
      after.now ≤ opened + (2 * limits.script.ceilMillis + 10000 +
        (d.steps.map (limits.stepMillis plan.master.framework.maxRetryAttempts)).sum) ∧
      ∀ c, .cancelled c ∈ after.notes →
        after.now ≤ c + 6 * limits.script.ceilMillis + 10000 := by
  intro limits after hopened
  let st₀ : State σ := { st with notes := [] }
  let st₁ := (respond w st₀ .now).2
  let st₂ := (respond w st₁ .openSession).2
  let p := afterOpening plan entry d (respond w st₀ .now).1 (respond w st₁ .openSession).1
  have hafter : after = (p.run w st₂).2 := by
    change ((scenario plan tree entry).run w st₀).2 = _
    rw [scenario_eq hload]
    rfl
  have hnow : opened = st₂.now := by
    have hnone : comings st₁.notes = [] :=
      (comings_respond w st₀ .now).resolve_right fun h => nomatch h.1
    exact eq_now_of_opened w (asks_afterOpening plan entry d _ _) hnone (hafter ▸ hopened)
  -- If the run is cancelled when the session comes, then not before that moment.
  have hages : Ages 0 st₀ st₂ := (served w hw st₀ .now).ages.trans (served w hw st₁ .openSession).ages
  have hst : ∀ c, .cancelled c ∈ st₂.notes → st₂.cancelled = true ∧ st₂.now ≤ c := by
    intro c hc
    obtain ⟨hcancelled, -, -, hle⟩ := (hages.stops c hc).resolve_left fun h => nomatch h
    exact ⟨hcancelled, hle⟩
  obtain ⟨hwhole, hrest⟩ := now_le_of_run w hw p (within_afterOpening plan entry d _ _)
    (fun _ _ => lingers_afterOpening) hst
  rw [hafter, hnow]
  refine ⟨Nat.le_trans hwhole (Nat.le_of_eq ?_), fun c hc => Nat.le_trans (hrest c hc) ?_⟩
  · rw [Nat.add_right_comm]
    rfl
  · exact Nat.le_of_eq (Nat.add_assoc c _ _).symm

namespace Sample

/-- A browser that opens sessions and then hangs. -/
def hung : World Unit where
  opening _ _ := (⟨.ok (), 3, false⟩, ())
  reaction _ _ _ := (⟨.error (.timedOut "hung"), 1000000000, false⟩, ())
  settled _ _ _ := ()
  storing _ _ _ := (.atOnce none, ())
  interrupts _ _ := (false, ())
  wall _ := default

/-- The scenario in a browser that hangs, cancelled while the first step waits for its page. -/
def afterHung : State Unit :=
  ((scenario plan tree entry).run hung { State.initial () (some 20000) with notes := [] }).2

/-- The moments at which a run was cancelled. -/
def stops (notes : List Note) : List Nat :=
  notes.filterMap fun n =>
    match n with
    | .cancelled m => some m
    | .event _ _ _ => none

theorem mem_of_mem_stops {m : Nat} {notes : List Note} (h : m ∈ stops notes) :
    .cancelled m ∈ notes := by
  obtain ⟨n, hn, hstop⟩ := List.mem_filterMap.1 h
  cases n with
  | cancelled m' =>
    obtain rfl := Option.some.inj hstop
    exact hn
  | event m' place e => cases hstop

theorem promptness_of_hung :
    hung.StoresAtOnce ∧ Scenario.load plan.environment tree entry = .ok definition ∧
      (∃ place, .event 3 place (.opened 0) ∈ afterHung.notes) ∧
      .cancelled 20000 ∈ afterHung.notes ∧ afterHung.now ≤ 3 + 750000 ∧
      afterHung.now ≤ 20000 + 6 * 10000 + 10000 := by
  have hstores : hung.StoresAtOnce := fun _ _ _ => rfl
  have hcomes : (3, 0) ∈ comings afterHung.notes := by
    rw [afterHung, scenario_eq load_entry]
    decide +kernel
  have hstops : 20000 ∈ stops afterHung.notes := by
    rw [afterHung, scenario_eq load_entry]
    decide +kernel
  obtain ⟨place, hopened⟩ := exists_of_mem_comings hcomes
  have hcancelled := mem_of_mem_stops hstops
  obtain ⟨hwhole, hrest⟩ :=
    promptness_of_scenario hung hstores load_entry (State.initial () (some 20000)) hopened
  have hlimit : (Limits.ofTimeouts plan.environment.timeouts).script.ceilMillis = 10000 := by
    decide +kernel
  have htime : 2 * (Limits.ofTimeouts plan.environment.timeouts).script.ceilMillis + 10000 +
      (definition.steps.map ((Limits.ofTimeouts plan.environment.timeouts).stepMillis
        plan.master.framework.maxRetryAttempts)).sum = 750000 := by
    decide +kernel
  rw [htime] at hwhole
  have hc := hrest 20000 hcancelled
  rw [hlimit] at hc
  exact ⟨hstores, load_entry, ⟨place, hopened⟩, hcancelled, hwhole, hc⟩

end Sample

end Run
end Walkthrough
