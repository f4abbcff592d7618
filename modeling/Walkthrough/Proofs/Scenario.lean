import Walkthrough.Proofs.Basic
import Walkthrough.Proofs.Steps

/-!
# Walkthrough.Proofs.Scenario

What a scenario goes through and what its result says, whatever the browser, the store and the clock
answer and whenever the run is cancelled.

* `ends_runAll`: the recording starts, the steps go through their courses, the recording ends.
* `isInSession_of_runAll`: all that is asked meanwhile is asked in the session.
* `ends_scenario`: a scenario that cannot be loaded asks for no session, one that gets none makes no
  call, and the others close theirs when all steps are done (`Playing`).
-/

namespace Walkthrough

/-! ## Loaded scenarios -/

namespace Scenario

theorem length_buildSteps {s : Surroundings} {previous : Option Nat} {raws : List RawStep}
    {steps : List Step} (h : buildSteps s previous raws = .ok steps) :
    steps.length = raws.length := by
  induction raws generalizing previous steps with
  | nil =>
    obtain rfl := Except.ok.inj h
    rfl
  | cons raw rest ih =>
    have both (g : (raw.build s >>= fun step => buildSteps s (some raw.id) rest >>= fun steps =>
        pure (step :: steps)) = .ok steps) : steps.length = (raw :: rest).length := by
      obtain ⟨step, -, g⟩ := ok_bind_iff.1 g
      obtain ⟨steps', hrest, g⟩ := ok_bind_iff.1 g
      obtain rfl := Except.ok.inj g
      exact congrArg Nat.succ (ih hrest)
    simp only [buildSteps] at h
    split at h
    · split at h
      · cases h
      · exact both h
    · exact both h

/-- A scenario that can be loaded has steps. -/
theorem steps_ne_nil_of_load {env : Config.Environment} {tree : Files.Tree} {entry : Config.Entry}
    {d : Definition} (h : load env tree entry = .ok d) : d.steps ≠ [] := by
  simp only [load] at h
  obtain ⟨text, -, h⟩ := ok_bind_iff.1 h
  split at h
  · next file hfile =>
    obtain ⟨file, -, h⟩ := ok_bind_iff.1 h
    obtain ⟨data, -, h⟩ := ok_bind_iff.1 h
    simp only [File.build] at h
    split at h
    · cases h
    · next hsteps =>
      obtain ⟨⟨vars, url⟩, -, h⟩ := ok_bind_iff.1 h
      obtain ⟨steps, hbuild, h⟩ := ok_bind_iff.1 h
      obtain rfl := Except.ok.inj h
      have hlength := length_buildSteps hbuild
      rintro (rfl : steps = [])
      exact hsteps (List.isEmpty_iff.2 (List.length_eq_zero_iff.1 hlength.symm))
  · cases h

end Scenario

namespace Run

open Browser Report

/-- What is asked while a session is open. -/
def Request.IsInSession (session : Nat) : Request → Prop
  | .token next => next ≠ .scenario
  | r => r.IsInStep session

theorem Request.IsInStep.isInSession {session : Nat} {r : Request} (h : r.IsInStep session) :
    r.IsInSession session := by
  cases r with
  | token next =>
    obtain ⟨id, number, rfl⟩ := h
    exact nofun
  | _ => exact h

/-- Calls in a session are made in it, and none of them ends it. -/
theorem Request.IsInSession.call {session s : Nat} {c : Call} {r : Request}
    (h : r.IsInSession session) (hc : r.call? = some (s, c)) : s = session ∧ c ≠ .close := by
  cases r with
  | call s' c' limit =>
    obtain ⟨rfl, rfl⟩ := Prod.mk.inj (Option.some.inj hc)
    exact h.elim id fun h => h.elim
  | shielded s' c' limit =>
    obtain ⟨rfl, rfl⟩ := Prod.mk.inj (Option.some.inj hc)
    rcases h with h | ⟨h, hcapture⟩
    · exact h.elim
    · refine ⟨h, ?_⟩
      rintro rfl
      cases hcapture
  | _ => cases hc

/-! ## The course of a scenario -/

namespace Performer

variable {p : Performer} {xs : List Exchange}

theorem IsUnited.steps (hp : p.IsUnited) :
    p.AllowsSteps (Request.IsInSession p.session.id) where
  execute step := (hp.attempts.execute step).mono fun _ => Request.IsInStep.isInSession
  begins _ := nofun
  again _ _ := nofun
  captures := hp.captures.mono fun _ => Request.IsInStep.isInSession

theorem isInSession_of_runAll (hp : p.IsUnited) {steps : List Scenario.Step} {rs : List StepResult}
    {artifacts : List Artifact} (h : Ends (p.runAll steps) xs (rs, artifacts)) :
    ∀ x ∈ xs, x.request.IsInSession p.session.id :=
  h.asks (hp.steps.asks_runAll steps)

/-- What a scenario goes through in its session: the start of a recording, its steps, the end of the
recording. -/
theorem ends_runAll {steps : List Scenario.Step} {rs : List StepResult} {artifacts : List Artifact}
    (h : Ends (p.runAll steps) xs (rs, artifacts)) :
    ∃ us vs ws before after, xs = us ++ (vs ++ ws) ∧ Ends p.recorder.start us before ∧
      Ends (p.runSteps before steps) vs (rs, after) ∧
      Ends (p.recorder.finish after) ws artifacts := by
  obtain ⟨before, us, _, hstart, h₁, rfl⟩ := ends_bind.1 h
  obtain ⟨⟨rs', after⟩, vs, _, hsteps, h₂, rfl⟩ := ends_bind.1 h₁
  obtain ⟨artifacts', ws, _, hfinish, h₃, rfl⟩ := ends_bind.1 h₂
  obtain ⟨rfl, hr⟩ := ends_pure.1 h₃
  obtain ⟨rfl, rfl⟩ := Prod.mk.inj hr
  exact ⟨us, vs, ws, before, after, by simp, hstart, hsteps, hfinish⟩

end Performer

section Scenario

variable {plan : Config.Plan} {tree : Files.Tree} {entry : Config.Entry} {xs : List Exchange}
  {r : ScenarioResult}

theorem isUnited_performer (plan : Config.Plan) (name : String) (session : Nat) :
    (performer plan name session).IsUnited := rfl

section Asks

variable {P : Request → Prop}

theorem asks_abort (hnow : P .now) (entry : Config.Entry) (started : Moment) (f : Failure) :
    (abort entry started f).Asks P :=
  asks_bind (asks_ask hnow) fun _ => asks_pure _

theorem asks_openSession (hopen : P .openSession) : openSession.run.Asks P :=
  asks_bind (asks_ask hopen) fun answer =>
    match answer with
    | none => trivial
    | some (.ok _) => trivial
    | some (.error _) => trivial

/-- A scenario asks what its steps ask in a session, for the end of the session and for the time. -/
theorem asks_inSession {d : Scenario.Definition} {session : Nat} (hnow : P .now)
    (hclose : P (.shielded session .close closeLimit))
    (hall : ((performer plan d.name session).runAll d.steps).Asks P) (started : Moment) :
    (inSession plan entry started d session).Asks P :=
  asks_bind hall fun _ =>
    asks_bind (asks_ask hclose) fun _ => asks_bind (asks_ask hnow) fun _ => asks_pure _

theorem asks_scenario (hnow : P .now) (hopen : P .openSession)
    (hclose : ∀ session, P (.shielded session .close closeLimit))
    (hall : ∀ (d : Scenario.Definition) session,
      ((performer plan d.name session).runAll d.steps).Asks P) :
    (scenario plan tree entry).Asks P := by
  refine asks_bind (asks_ask hnow) fun started => ?_
  split
  · exact asks_abort hnow entry started _
  · refine asks_bind (asks_openSession hopen) fun answer => ?_
    cases answer with
    | error f => exact asks_abort hnow entry started f
    | ok session => exact asks_inSession hnow (hclose session) (hall _ session) started

end Asks

theorem ends_abort {started : Moment} {f : Failure} (h : Ends (abort entry started f) xs r) :
    ∃ ended, xs = [⟨.now, ended⟩] ∧
      r = .aborted entry f started.wall (Moment.millis ended - started.millis) := by
  obtain ⟨ended, _, h₁, rfl⟩ := ends_ask_bind.1 h
  obtain ⟨rfl, rfl⟩ := ends_pure.1 h₁
  exact ⟨ended, rfl, rfl⟩

/-- The failure of a scenario that gets no session. -/
def unopened : Option (Except Browser.Fault Nat) → Option Failure
  | none => some .cancelled
  | some (.error f) => some (.ofBrowser f)
  | some (.ok _) => none

theorem ends_openSession {e : Except Failure Nat} (h : Ends openSession.run xs e) :
    ∃ answer : Option (Except Browser.Fault Nat), xs = [⟨.openSession, answer⟩] ∧
      match e with
      | .ok session => answer = some (.ok session)
      | .error f => unopened answer = some f := by
  obtain ⟨answer, _, h₁, rfl⟩ := ends_ask_bind.1 h
  refine ⟨answer, ?_⟩
  match answer, h₁ with
  | none, h₁ =>
    obtain ⟨rfl, rfl⟩ := ends_pure.1 h₁
    exact ⟨rfl, rfl⟩
  | some (.ok session), h₁ =>
    obtain ⟨rfl, rfl⟩ := ends_pure.1 h₁
    exact ⟨rfl, rfl⟩
  | some (.error f), h₁ =>
    obtain ⟨rfl, rfl⟩ := ends_pure.1 h₁
    exact ⟨rfl, rfl⟩

/-- The result of a scenario whose steps were carried out. -/
def resultOf (entry : Config.Entry) (started ended : Moment) (steps : List StepResult)
    (artifacts : List Artifact) : ScenarioResult where
  name := entry.name
  scenarioFile := entry.scenarioFile
  status := ScenarioResult.statusOf steps
  steps := steps
  durationMs := ended.millis - started.millis
  artifacts := artifacts
  error := none
  startedAt := started.wall

/-- What a scenario goes through. -/
inductive Playing (plan : Config.Plan) (tree : Files.Tree) (entry : Config.Entry) :
    List Exchange → ScenarioResult → Prop where
  /-- It cannot be loaded, and asks for no session. -/
  | unloaded (f : Failure) (started ended : Moment) :
      Scenario.load plan.environment tree entry = .error f →
      Playing plan tree entry [⟨.now, started⟩, ⟨.now, ended⟩]
        (.aborted entry f started.wall (ended.millis - started.millis))
  /-- It gets no session, and makes no call. -/
  | unopened (d : Scenario.Definition) (f : Failure) (started ended : Moment)
      {answer : Option (Except Browser.Fault Nat)} :
      Scenario.load plan.environment tree entry = .ok d → unopened answer = some f →
      Playing plan tree entry [⟨.now, started⟩, ⟨.openSession, answer⟩, ⟨.now, ended⟩]
        (.aborted entry f started.wall (ended.millis - started.millis))
  /-- Its steps are carried out in a session, which is closed afterwards. -/
  | opened (d : Scenario.Definition) (session : Nat) (started ended : Moment) (xs : List Exchange)
      (closed : Option (Except Browser.Fault Unit)) {steps : List StepResult}
      {artifacts : List Artifact} :
      Scenario.load plan.environment tree entry = .ok d →
      Ends ((performer plan d.name session).runAll d.steps) xs (steps, artifacts) →
      Playing plan tree entry
        (⟨.now, started⟩ :: ⟨.openSession, some (.ok session)⟩ ::
          (xs ++ [⟨.shielded session .close closeLimit, closed⟩, ⟨.now, ended⟩]))
        (resultOf entry started ended steps artifacts)

theorem ends_inSession {started : Moment} {d : Scenario.Definition} {session : Nat}
    (h : Ends (inSession plan entry started d session) xs r) :
    ∃ steps artifacts ys closed ended,
      Ends ((performer plan d.name session).runAll d.steps) ys (steps, artifacts) ∧
      xs = ys ++ [⟨.shielded session .close closeLimit, closed⟩, ⟨.now, ended⟩] ∧
      r = resultOf entry started ended steps artifacts := by
  obtain ⟨⟨steps, artifacts⟩, ys, _, hall, h₁, rfl⟩ := ends_bind.1 h
  obtain ⟨closed, _, h₂, rfl⟩ := ends_ask_bind.1 h₁
  obtain ⟨ended, _, h₃, rfl⟩ := ends_ask_bind.1 h₂
  obtain ⟨rfl, rfl⟩ := ends_pure.1 h₃
  exact ⟨steps, artifacts, ys, closed, ended, hall, rfl, rfl⟩

theorem ends_scenario (h : Ends (scenario plan tree entry) xs r) :
    Playing plan tree entry xs r := by
  obtain ⟨started, _, h₁, rfl⟩ := ends_ask_bind.1 h
  cases hload : Scenario.load plan.environment tree entry with
  | error f =>
    rw [hload] at h₁
    obtain ⟨ended, rfl, rfl⟩ := ends_abort h₁
    exact .unloaded f started ended hload
  | ok d =>
    rw [hload] at h₁
    obtain ⟨e, _, _, hopen, h₂, rfl⟩ := ends_bind.1 h₁
    obtain ⟨answer, rfl, hanswer⟩ := ends_openSession hopen
    cases e with
    | error f =>
      obtain ⟨ended, rfl, rfl⟩ := ends_abort h₂
      exact .unopened d f started ended hload hanswer
    | ok session =>
      change answer = some (.ok session) at hanswer
      subst hanswer
      obtain ⟨steps, artifacts, ys, closed, ended, hall, rfl, rfl⟩ := ends_inSession h₂
      exact .opened d session started ended ys closed hload hall

end Scenario

end Run
end Walkthrough
