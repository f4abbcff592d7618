import Walkthrough.Config.Master
import Walkthrough.Failure
import Walkthrough.Json.Printer
import Walkthrough.Timestamp

/-!
# Walkthrough.Report.Record

What is recorded of a run: artifacts, results of steps and scenarios, and the report of them all,
together with their documents.

* `StepResult`, `ScenarioResult` and `Report` each have a schema, and `ofFields_fields` says that
  writing loses nothing.
* `Report.artifacts` lists all artifacts, scenario by scenario and step by step.
-/

namespace Walkthrough
namespace Report

open Json

inductive StepStatus where
  | passed
  | failed
  | skipped
deriving DecidableEq, Repr

def StepStatus.word : StepStatus → String
  | .passed => "passed"
  | .failed => "failed"
  | .skipped => "skipped"

inductive ScenarioStatus where
  | passed
  | failed
deriving DecidableEq, Repr

def ScenarioStatus.word : ScenarioStatus → String
  | .passed => "passed"
  | .failed => "failed"

inductive ArtifactKind where
  | screenshot
  | video
deriving DecidableEq, Repr

def ArtifactKind.word : ArtifactKind → String
  | .screenshot => "screenshot"
  | .video => "video"

/-- A failure as it stands in a report. -/
structure ErrorDetail where
  kind : Failure.Kind
  message : String
deriving DecidableEq, Repr

namespace ErrorDetail

def ofFailure (f : Failure) : ErrorDetail := ⟨f.kind, f.message⟩

def schema : Schema :=
  .record "ErrorDetail"
    (.required "kind" (.choice Failure.Kind Failure.Kind.all Failure.Kind.word) <|
      .required "message" .text .nil)

def ofFields : schema.Denote → ErrorDetail
  | (kind, message, ()) => ⟨kind, message⟩

def fields (e : ErrorDetail) : schema.Denote := (e.kind, e.message, ())

theorem ofFields_fields (e : ErrorDetail) : ofFields e.fields = e := rfl

/-- The failure as a document. -/
def toValue (e : ErrorDetail) : Value := schema.toValue e.fields

end ErrorDetail

/-- Moments as they stand in documents. -/
def momentSchema : Schema :=
  .parsed Timestamp "an RFC 3339 formatted date and time string"
    (fun s => (Timestamp.parse s).mapError Timestamp.Fault.message) Timestamp.written

/-- A stored screenshot or video. -/
structure Artifact where
  kind : ArtifactKind
  path : String
  stepId : Option Nat
  attempt : Option Nat
  capturedAt : Timestamp
deriving DecidableEq, Repr

namespace Artifact

def schema : Schema :=
  .record "ArtifactRef"
    (.required "kind" (.choice ArtifactKind [.screenshot, .video] ArtifactKind.word) <|
      .required "path" .path <| .optional "step_id" (.optional .u32) <|
      .optional "attempt" (.optional .u32) <| .required "captured_at" momentSchema .nil)

def ofFields : schema.Denote → Artifact
  | (kind, path, stepId, attempt, capturedAt, ()) =>
    ⟨kind, path, stepId.getD none, attempt.getD none, capturedAt⟩

def fields (a : Artifact) : schema.Denote :=
  (a.kind, a.path, some a.stepId, some a.attempt, a.capturedAt, ())

theorem ofFields_fields (a : Artifact) : ofFields a.fields = a := rfl

/-- Are these the same artifact? Two spellings of a path count as one. -/
def same (a b : Artifact) : Bool :=
  a.kind = b.kind && Files.Path.same a.path b.path && a.stepId = b.stepId
    && a.attempt = b.attempt && a.capturedAt = b.capturedAt

end Artifact

/-- The outcome of a step. -/
structure StepResult where
  stepId : Nat
  stepName : String
  action : Action.Kind
  status : StepStatus
  attempts : Nat
  durationMs : Nat
  artifacts : List Artifact
  error : Option ErrorDetail
  startedAt : Timestamp
deriving DecidableEq, Repr

namespace StepResult

def schema : Schema :=
  .record "StepResult"
    (.required "step_id" .u32 <| .required "step_name" .text <|
      .required "action" (.choice Action.Kind Action.Kind.all Action.Kind.word) <|
      .required "status" (.choice StepStatus [.passed, .failed, .skipped] StepStatus.word) <|
      .required "attempts" .u32 <| .required "duration_ms" .u64 <|
      .optional "artifacts" (.list Artifact.schema) <|
      .optional "error" (.optional ErrorDetail.schema) <|
      .required "started_at" momentSchema .nil)

def ofFields : schema.Denote → StepResult
  | (stepId, stepName, action, status, attempts, durationMs, artifacts, error, startedAt, ()) =>
    { stepId, stepName, action, status, attempts, durationMs
      artifacts := (artifacts.getD []).map Artifact.ofFields
      error := (error.getD none).map ErrorDetail.ofFields
      startedAt }

def fields (s : StepResult) : schema.Denote :=
  (s.stepId, s.stepName, s.action, s.status, s.attempts, s.durationMs,
    some (s.artifacts.map Artifact.fields), some (s.error.map ErrorDetail.fields), s.startedAt, ())

end StepResult

/-- The outcome of a scenario. -/
structure ScenarioResult where
  name : String
  scenarioFile : String
  status : ScenarioStatus
  steps : List StepResult
  durationMs : Nat
  /-- What belongs to no single step. -/
  artifacts : List Artifact
  /-- Why no step was run. -/
  error : Option ErrorDetail
  startedAt : Timestamp
deriving DecidableEq, Repr

namespace ScenarioResult

def schema : Schema :=
  .record "ScenarioResult"
    (.required "name" .text <| .required "scenario_file" .path <|
      .required "status" (.choice ScenarioStatus [.passed, .failed] ScenarioStatus.word) <|
      .required "steps" (.list StepResult.schema) <| .required "duration_ms" .u64 <|
      .optional "artifacts" (.list Artifact.schema) <|
      .optional "error" (.optional ErrorDetail.schema) <|
      .required "started_at" momentSchema .nil)

def ofFields : schema.Denote → ScenarioResult
  | (name, scenarioFile, status, steps, durationMs, artifacts, error, startedAt, ()) =>
    { name, scenarioFile, status
      steps := steps.map StepResult.ofFields
      durationMs
      artifacts := (artifacts.getD []).map Artifact.ofFields
      error := (error.getD none).map ErrorDetail.ofFields
      startedAt }

def fields (s : ScenarioResult) : schema.Denote :=
  (s.name, s.scenarioFile, s.status, s.steps.map StepResult.fields, s.durationMs,
    some (s.artifacts.map Artifact.fields), some (s.error.map ErrorDetail.fields), s.startedAt, ())

def parse (text : String) : Except Json.Fault ScenarioResult := (schema.parse text).map ofFields

def parseList (text : String) : Except Json.Fault (List ScenarioResult) :=
  ((Schema.list schema).parse text).map (List.map ofFields)

/-- A scenario passes when it has steps and all of them pass. -/
def statusOf (steps : List StepResult) : ScenarioStatus :=
  if !steps.isEmpty && steps.all (·.status = .passed) then .passed else .failed

def passed (s : ScenarioResult) : Bool := s.status = .passed

/-- The result of a scenario of which no step was run. -/
def aborted (entry : Config.Entry) (f : Failure) (startedAt : Timestamp) (durationMs : Nat) :
    ScenarioResult where
  name := entry.name
  scenarioFile := entry.scenarioFile
  status := .failed
  steps := []
  durationMs := durationMs
  artifacts := []
  error := some (.ofFailure f)
  startedAt := startedAt

/-- The artifacts of the steps, then those of the scenario. -/
def allArtifacts (s : ScenarioResult) : List Artifact :=
  s.steps.flatMap StepResult.artifacts ++ s.artifacts

end ScenarioResult

/-- The numbers of a run. -/
structure Summary where
  totalScenarios : Nat
  passedScenarios : Nat
  failedScenarios : Nat
  totalSteps : Nat
  passedSteps : Nat
  failedSteps : Nat
  skippedSteps : Nat
  /-- How many scenarios of a hundred passed. -/
  successRate : Binary64
  passed : Bool
deriving DecidableEq, Repr

namespace Summary

def schema : Schema :=
  .record "RunSummary"
    (.required "total_scenarios" .count <| .required "passed_scenarios" .count <|
      .required "failed_scenarios" .count <| .required "total_steps" .count <|
      .required "passed_steps" .count <| .required "failed_steps" .count <|
      .required "skipped_steps" .count <| .required "success_rate" .real <|
      .required "passed" .flag .nil)

def ofFields : schema.Denote → Summary
  | (totalScenarios, passedScenarios, failedScenarios, totalSteps, passedSteps, failedSteps,
      skippedSteps, successRate, passed, ()) =>
    ⟨totalScenarios, passedScenarios, failedScenarios, totalSteps, passedSteps, failedSteps,
      skippedSteps, successRate, passed⟩

def fields (s : Summary) : schema.Denote :=
  (s.totalScenarios, s.passedScenarios, s.failedScenarios, s.totalSteps, s.passedSteps,
    s.failedSteps, s.skippedSteps, s.successRate, s.passed, ())

theorem ofFields_fields (s : Summary) : ofFields s.fields = s := rfl

/-- The summary as a document. -/
def toValue (s : Summary) : Value := schema.toValue s.fields

/-- How many of a hundred, rounded to two places. -/
def rate (part total : Nat) : Binary64 :=
  if total = 0 then Binary64.ofNat 0
  else
    let share := (Binary64.ofNat part).div (Binary64.ofNat total)
    (Binary64.ofNat (share.mul (Binary64.ofNat 10000)).roundMagnitude).div (Binary64.ofNat 100)

/-- The numbers of a list of results. -/
def ofResults (scenarios : List ScenarioResult) (cancelled : Bool) : Summary :=
  let steps := scenarios.flatMap ScenarioResult.steps
  let passed := scenarios.countP ScenarioResult.passed
  let failed := scenarios.countP fun s => !s.passed
  { totalScenarios := scenarios.length
    passedScenarios := passed
    failedScenarios := failed
    totalSteps := steps.length
    passedSteps := steps.countP (·.status = .passed)
    failedSteps := steps.countP (·.status = .failed)
    skippedSteps := steps.countP (·.status = .skipped)
    successRate := rate passed scenarios.length
    passed := !cancelled && failed = 0 }

end Summary
end Report

/-- The report of a run. -/
structure Report where
  runId : String
  startedAt : Timestamp
  finishedAt : Timestamp
  environmentId : String
  scenarios : List Report.ScenarioResult
  summary : Report.Summary
  cancelled : Bool
deriving DecidableEq, Repr

namespace Report

open Json

def schema : Schema :=
  .record "RunReport"
    (.required "run_id" .text <| .required "started_at" momentSchema <|
      .required "finished_at" momentSchema <| .required "environment_id" .text <|
      .required "scenarios" (.list ScenarioResult.schema) <|
      .required "summary" Summary.schema <| .optional "cancelled" .flag .nil)

def ofFields : schema.Denote → Report
  | (runId, startedAt, finishedAt, environmentId, scenarios, summary, cancelled, ()) =>
    { runId, startedAt, finishedAt, environmentId
      scenarios := scenarios.map ScenarioResult.ofFields
      summary := Summary.ofFields summary
      cancelled := cancelled.getD false }

def fields (r : Report) : schema.Denote :=
  (r.runId, r.startedAt, r.finishedAt, r.environmentId, r.scenarios.map ScenarioResult.fields,
    r.summary.fields, some r.cancelled, ())

def parse (text : String) : Except Json.Fault Report := (schema.parse text).map ofFields

/-- The report as a document. -/
def toValue (r : Report) : Value := schema.toValue r.fields

/-- The text of a report. -/
def render (r : Report) : String := pretty r.toValue

def passed (r : Report) : Bool := r.summary.passed

/-- Every artifact of the report, scenario by scenario and step by step. -/
def artifacts (r : Report) : List Artifact := r.scenarios.flatMap ScenarioResult.allArtifacts

end Report
end Walkthrough
