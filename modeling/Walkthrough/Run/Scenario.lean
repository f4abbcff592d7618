import Walkthrough.Capture.Recorder
import Walkthrough.Config.Plan
import Walkthrough.Power
import Walkthrough.Run.Attempt

/-!
# Walkthrough.Run.Scenario

A scenario from its files to its result: the steps one after the other in a session of their own,
each attempted again while that may help, and none after the first that does not pass.

* `tryStep` makes attempts until one passes or no other is allowed.
* `runSteps` gives one result for every step.
* `scenario` never fails; what goes wrong is in the result.
-/

namespace Walkthrough
namespace Run

open Report

/-- Who carries out the steps of a scenario. -/
structure Performer where
  session : Session
  recorder : Capture.Recorder
  /-- How often a step may be attempted again. -/
  retries : Nat

/-- The largest number of an attempt. -/
def attemptBound : Nat := twoTo 32 - 1

/-- How many attempts a step has when it may be attempted again a number of times. -/
def maxAttempts (retries : Nat) : Nat := min (retries + 1) attemptBound

/-- What came of one attempt of a step. -/
structure Attempted where
  failure : Option Failure
  /-- Is the step attempted again? -/
  again : Bool
  shot? : Option Artifact

/-- What came of the attempts of a step: how many there were, why the last one failed if it did, and
what was captured. -/
structure Tried where
  attempts : Nat
  failure : Option Failure
  artifacts : List Artifact

namespace Performer

/-- May a step be attempted again, under the next number, after a failure? -/
def mayRetry (f : Failure) (left stepId next : Nat) : Program Bool := do
  if f.isRetryable && left != 0 then return !(← Program.ask (.token (.attempt stepId next)))
  else return false

/-- Attempt a step once, when it may be attempted again `left` times. -/
def tryOnce (p : Performer) (step : Scenario.Step) (left attempt : Nat) : Program Attempted := do
  match ← (p.session.execute step).run with
  | .ok () =>
    let shot? ← p.recorder.passed step.id step.screenshot attempt
    return ⟨none, false, shot?⟩
  | .error f =>
    let again ← mayRetry f left step.id (attempt + 1)
    let shot? ← p.recorder.failed step.id step.screenshot attempt (!again)
    return ⟨some f, again, shot?⟩

/-- Attempt a step, and again up to `left` times. -/
def tryStep (p : Performer) (step : Scenario.Step) :
    (left attempt : Nat) → List Artifact → Program Tried
  | 0, attempt, artifacts => do
    let once ← p.tryOnce step 0 attempt
    return ⟨attempt, once.failure, artifacts ++ once.shot?.toList⟩
  | left + 1, attempt, artifacts => do
    let once ← p.tryOnce step (left + 1) attempt
    let artifacts := artifacts ++ once.shot?.toList
    if once.again then p.tryStep step left (attempt + 1) artifacts
    else return ⟨attempt, once.failure, artifacts⟩

/-- Attempt a step as often as it may be attempted, unless the run is cancelled. -/
def tryUnless (p : Performer) (cancelled : Bool) (step : Scenario.Step) : Program Tried :=
  if cancelled then pure ⟨0, some .cancelled, []⟩
  else p.tryStep step (maxAttempts p.retries - 1) 1 []

/-- Carry out a step. The answer says, too, whether a recording runs afterwards. -/
def runStep (p : Performer) (recording : Bool) (step : Scenario.Step) :
    Program (StepResult × Bool) := do
  let started ← Program.ask .now
  let cancelled : Bool ← Program.ask (.token (.step step.id))
  let tried ← p.tryUnless cancelled step
  let (segment?, recording) ← p.recorder.cut recording step.id
  let ended ← Program.ask .now
  let result : StepResult :=
    { stepId := step.id
      stepName := step.name
      action := step.action.kind
      status := if tried.failure.isNone then .passed else .failed
      attempts := tried.attempts
      durationMs := ended.millis - started.millis
      artifacts := tried.artifacts ++ segment?.toList
      error := tried.failure.map .ofFailure
      startedAt := started.wall }
  return (result, recording)

/-- The result of a step that is not carried out. -/
def skip (step : Scenario.Step) : Program StepResult := do
  let moment ← Program.ask .now
  let result : StepResult :=
    { stepId := step.id
      stepName := step.name
      action := step.action.kind
      status := .skipped
      attempts := 0
      durationMs := 0
      artifacts := []
      error := none
      startedAt := moment.wall }
  return result

/-- Skip steps. -/
def skipAll : List Scenario.Step → Program (List StepResult)
  | [] => pure []
  | step :: rest => do
    let result ← skip step
    return result :: (← skipAll rest)

/-- Carry out steps in order until one does not pass. The answer says, too, whether a recording
runs afterwards. -/
def runSteps (p : Performer) : Bool → List Scenario.Step → Program (List StepResult × Bool)
  | recording, [] => pure ([], recording)
  | recording, step :: rest => do
    let (result, recording) ← p.runStep recording step
    if result.status = .passed then
      let (results, recording) ← p.runSteps recording rest
      return (result :: results, recording)
    else return (result :: (← skipAll rest), recording)

/-- Carry out all steps of a scenario, and record it. -/
def runAll (p : Performer) (steps : List Scenario.Step) :
    Program (List StepResult × List Artifact) := do
  let recording ← p.recorder.start
  let (results, recording) ← p.runSteps recording steps
  return (results, ← p.recorder.finish recording)

end Performer

/-- How long the end of a session may take. -/
def closeLimit : Duration := .ofWholeSeconds 10

/-- The performer of a scenario in a session. -/
def performer (plan : Config.Plan) (name : String) (session : Nat) : Performer :=
  let limits := Limits.ofTimeouts plan.environment.timeouts
  { session := ⟨session, limits⟩
    recorder := ⟨session, Capture.Policy.ofMaster plan.master, name, limits.script⟩
    retries := plan.master.framework.maxRetryAttempts }

/-- Open a session, which may fail. -/
def openSession : Attempt Nat := ExceptT.mk do
  match ← Program.ask .openSession with
  | none => return .error .cancelled
  | some (.ok id) => return .ok id
  | some (.error f) => return .error (.ofBrowser f)

/-- The result of a scenario of which no step is run. -/
def abort (entry : Config.Entry) (started : Moment) (f : Failure) : Program ScenarioResult := do
  let ended ← Program.ask .now
  return .aborted entry f started.wall (ended.millis - started.millis)

/-- Run a loaded scenario in a session and close the session, whatever happened. -/
def inSession (plan : Config.Plan) (entry : Config.Entry) (started : Moment)
    (definition : Scenario.Definition) (session : Nat) : Program ScenarioResult := do
  let (steps, artifacts) ← (performer plan definition.name session).runAll definition.steps
  let _ ← Program.ask (.shielded session .close closeLimit)
  let ended ← Program.ask .now
  let result : ScenarioResult :=
    { name := entry.name
      scenarioFile := entry.scenarioFile
      status := ScenarioResult.statusOf steps
      steps := steps
      durationMs := ended.millis - started.millis
      artifacts := artifacts
      error := none
      startedAt := started.wall }
  return result

/-- Load, run and close the scenario of an entry. -/
def scenario (plan : Config.Plan) (tree : Files.Tree) (entry : Config.Entry) :
    Program ScenarioResult := do
  let started ← Program.ask .now
  match Scenario.load plan.environment tree entry with
  | .error f => abort entry started f
  | .ok definition =>
    match ← openSession.run with
    | .error f => abort entry started f
    | .ok session => inSession plan entry started definition session

end Run
end Walkthrough
