import Walkthrough.Proofs.Moments
import Walkthrough.Proofs.Schemas
import Walkthrough.Report.Record

/-!
# Walkthrough.Proofs.Documents

A report is read back from its text as it was.

* `InBounds` says, record by record, what a report has to keep to: numbers have the widths of their
  fields, moments lie in the years 0 to 9999, and the rate of success is finite. Texts, paths,
  lists and what may be missing are free.
* `fits_fields`, once for every record: what is in bounds fits its schema, at any depth that leaves
  room for the records inside.
* `Report.parse_render`: what is written is read back, when the rate of success is.
-/

namespace Walkthrough

open Json

/-- A moment of a year of four digits. -/
structure Timestamp.InBounds (t : Timestamp) : Prop where
  from_zero : 0 ≤ t.date.year
  below : t.date.year ≤ 9999

namespace Report

/-! ## Parts -/

section Parts

variable {depth : Nat}

theorem fits_moment {t : Timestamp} (h : t.InBounds) : momentSchema.Fits depth t := by
  change (Timestamp.parse t.written).mapError Timestamp.Fault.message = .ok t
  rw [Timestamp.parse_written h.from_zero h.below]
  rfl

theorem fits_u32 {n : Nat} (h : n < twoTo 32) : Schema.u32.Fits depth n :=
  ⟨h, Nat.lt_trans h (by decide)⟩

theorem fits_u64 {n : Nat} (h : n < twoTo 64) : Schema.u64.Fits depth n := ⟨h, h⟩

theorem fits_count {n : Nat} (h : n < twoTo 64) : Schema.count.Fits depth n := ⟨h, h⟩

/-- A number that may be missing is written as null when it is. -/
theorem fits_optional_u32 {n : Option Nat} (h : ∀ m, n = some m → m < twoTo 32) :
    (Schema.optional .u32).Fits depth n :=
  fun m hm => ⟨nofun, fits_u32 (h m hm)⟩

theorem fits_choice {α : Type} {all : List α} {name : α → String} {a : α}
    (h : variantOf all name (name a) = .ok a) : (Schema.choice α all name).Fits depth a := h

theorem fits_list {s : Schema} {xs : List s.Denote} (hdepth : depth + 1 < depthLimit)
    (h : ∀ x ∈ xs, s.Fits (depth + 1) x) : (Schema.list s).Fits depth xs := ⟨hdepth, h⟩

end Parts

/-! ## Words -/

theorem variantOf_errorKind (kind : Failure.Kind) :
    variantOf Failure.Kind.all Failure.Kind.word kind.word = .ok kind := by
  cases kind <;> rfl

theorem variantOf_actionKind (kind : Action.Kind) :
    variantOf Action.Kind.all Action.Kind.word kind.word = .ok kind := by
  cases kind <;> rfl

theorem variantOf_artifactKind (kind : ArtifactKind) :
    variantOf [.screenshot, .video] ArtifactKind.word kind.word = .ok kind := by
  cases kind <;> rfl

theorem variantOf_stepStatus (status : StepStatus) :
    variantOf [.passed, .failed, .skipped] StepStatus.word status.word = .ok status := by
  cases status <;> rfl

theorem variantOf_scenarioStatus (status : ScenarioStatus) :
    variantOf [.passed, .failed] ScenarioStatus.word status.word = .ok status := by
  cases status <;> rfl

/-! ## Records -/

theorem ErrorDetail.fits_fields {depth : Nat} (hdepth : depth + 1 < depthLimit) (e : ErrorDetail) :
    schema.Fits depth e.fields :=
  ⟨hdepth, by decide, fits_choice (variantOf_errorKind e.kind), trivial, trivial⟩

theorem ofFields_error (e : Option ErrorDetail) :
    (e.map ErrorDetail.fields).map ErrorDetail.ofFields = e := by
  cases e <;> rfl

theorem fits_error {depth : Nat} (hdepth : depth + 1 < depthLimit) (e : Option ErrorDetail) :
    (Schema.optional ErrorDetail.schema).Fits depth (e.map ErrorDetail.fields) := by
  intro fields hfields
  obtain ⟨e, -, rfl⟩ := Option.map_eq_some_iff.1 hfields
  exact ⟨nofun, e.fits_fields hdepth⟩

namespace Artifact

structure InBounds (a : Artifact) : Prop where
  stepId : ∀ n, a.stepId = some n → n < twoTo 32
  attempt : ∀ n, a.attempt = some n → n < twoTo 32
  capturedAt : a.capturedAt.InBounds

theorem fits_fields {depth : Nat} (hdepth : depth + 1 < depthLimit) {a : Artifact}
    (h : a.InBounds) : schema.Fits depth a.fields := by
  refine ⟨hdepth, by decide, fits_choice (variantOf_artifactKind a.kind), trivial, ?stepId,
    ?attempt, fits_moment h.capturedAt, trivial⟩
  case stepId =>
    rintro _ ⟨⟩
    exact fits_optional_u32 h.stepId
  case attempt =>
    rintro _ ⟨⟩
    exact fits_optional_u32 h.attempt

end Artifact

theorem fits_artifacts {depth : Nat} (hdepth : depth + 2 < depthLimit) {artifacts : List Artifact}
    (h : ∀ a ∈ artifacts, a.InBounds) :
    (Schema.list Artifact.schema).Fits depth (artifacts.map Artifact.fields) :=
  fits_list (by omega) (List.forall_mem_map.2 fun a ha => Artifact.fits_fields hdepth (h a ha))

namespace StepResult

structure InBounds (s : StepResult) : Prop where
  stepId : s.stepId < twoTo 32
  attempts : s.attempts < twoTo 32
  durationMs : s.durationMs < twoTo 64
  artifacts : ∀ a ∈ s.artifacts, a.InBounds
  startedAt : s.startedAt.InBounds

theorem fits_fields {depth : Nat} (hdepth : depth + 3 < depthLimit) {s : StepResult}
    (h : s.InBounds) : schema.Fits depth s.fields := by
  refine ⟨by omega, by decide, fits_u32 h.stepId, trivial, fits_choice (variantOf_actionKind s.action),
    fits_choice (variantOf_stepStatus s.status), fits_u32 h.attempts, fits_u64 h.durationMs,
    ?artifacts, ?error, fits_moment h.startedAt, trivial⟩
  case artifacts =>
    rintro _ ⟨⟩
    exact fits_artifacts hdepth h.artifacts
  case error =>
    rintro _ ⟨⟩
    exact fits_error (by omega) s.error

theorem ofFields_fields (s : StepResult) : ofFields s.fields = s := by
  change { s with
    artifacts := (s.artifacts.map Artifact.fields).map Artifact.ofFields
    error := (s.error.map ErrorDetail.fields).map ErrorDetail.ofFields } = s
  rw [Function.LeftInverse.list_map Artifact.ofFields_fields s.artifacts, ofFields_error]

end StepResult

namespace ScenarioResult

structure InBounds (s : ScenarioResult) : Prop where
  steps : ∀ t ∈ s.steps, t.InBounds
  durationMs : s.durationMs < twoTo 64
  artifacts : ∀ a ∈ s.artifacts, a.InBounds
  startedAt : s.startedAt.InBounds

theorem fits_fields {depth : Nat} (hdepth : depth + 5 < depthLimit) {s : ScenarioResult}
    (h : s.InBounds) : schema.Fits depth s.fields := by
  refine ⟨by omega, by decide, trivial, trivial, fits_choice (variantOf_scenarioStatus s.status),
    ?steps, fits_u64 h.durationMs, ?artifacts, ?error, fits_moment h.startedAt, trivial⟩
  case steps =>
    exact fits_list (by omega)
      (List.forall_mem_map.2 fun t ht => StepResult.fits_fields hdepth (h.steps t ht))
  case artifacts =>
    rintro _ ⟨⟩
    exact fits_artifacts (by omega) h.artifacts
  case error =>
    rintro _ ⟨⟩
    exact fits_error (by omega) s.error

theorem ofFields_fields (s : ScenarioResult) : ofFields s.fields = s := by
  change { s with
    steps := (s.steps.map StepResult.fields).map StepResult.ofFields
    artifacts := (s.artifacts.map Artifact.fields).map Artifact.ofFields
    error := (s.error.map ErrorDetail.fields).map ErrorDetail.ofFields } = s
  rw [Function.LeftInverse.list_map StepResult.ofFields_fields s.steps,
    Function.LeftInverse.list_map Artifact.ofFields_fields s.artifacts, ofFields_error]

end ScenarioResult

structure Summary.InBounds (s : Summary) : Prop where
  totalScenarios : s.totalScenarios < twoTo 64
  passedScenarios : s.passedScenarios < twoTo 64
  failedScenarios : s.failedScenarios < twoTo 64
  totalSteps : s.totalSteps < twoTo 64
  passedSteps : s.passedSteps < twoTo 64
  failedSteps : s.failedSteps < twoTo 64
  skippedSteps : s.skippedSteps < twoTo 64
  successRate : s.successRate.isFinite = true

theorem Summary.fits_fields {depth : Nat} (hdepth : depth + 1 < depthLimit) {s : Summary}
    (h : s.InBounds) (hrate : IsReadBack s.successRate) : schema.Fits depth s.fields :=
  ⟨hdepth, by decide, fits_count h.totalScenarios, fits_count h.passedScenarios,
    fits_count h.failedScenarios, fits_count h.totalSteps, fits_count h.passedSteps,
    fits_count h.failedSteps, fits_count h.skippedSteps, ⟨h.successRate, hrate⟩, trivial, trivial⟩

structure InBounds (r : Report) : Prop where
  startedAt : r.startedAt.InBounds
  finishedAt : r.finishedAt.InBounds
  scenarios : ∀ s ∈ r.scenarios, s.InBounds
  summary : r.summary.InBounds

theorem fits_fields {r : Report} (h : r.InBounds) (hrate : IsReadBack r.summary.successRate) :
    schema.Fits 0 r.fields := by
  refine ⟨by decide, by decide, trivial, fits_moment h.startedAt, fits_moment h.finishedAt, trivial,
    ?scenarios, Summary.fits_fields (by decide) h.summary hrate, ?cancelled, trivial⟩
  case scenarios =>
    exact fits_list (by decide)
      (List.forall_mem_map.2 fun s hs => ScenarioResult.fits_fields (by decide) (h.scenarios s hs))
  case cancelled =>
    rintro _ ⟨⟩
    exact trivial

theorem ofFields_fields (r : Report) : ofFields r.fields = r := by
  change { r with scenarios := (r.scenarios.map ScenarioResult.fields).map ScenarioResult.ofFields } = r
  rw [Function.LeftInverse.list_map ScenarioResult.ofFields_fields r.scenarios]

/-- A report is read back from its text as it was, if its rate of success is. -/
theorem parse_render {r : Report} (h : r.InBounds) (hrate : IsReadBack r.summary.successRate) :
    parse r.render = .ok r := by
  rw [parse, render, toValue, Schema.parse_pretty (fits_fields h hrate)]
  exact congrArg Except.ok (ofFields_fields r)

namespace Sample

/-- A leap second. -/
def moment : Timestamp :=
  ⟨⟨2015, 6, 30, by decide, by decide⟩, 23, 59, 60, 250000000, by decide, by decide, by decide,
    by decide⟩

def picture : Artifact := ⟨.screenshot, "out/a \"b\".png", some 4294967295, none, moment⟩

def step : StepResult where
  stepId := 7
  stepName := "größer\t\x01\\"
  action := .click
  status := .failed
  attempts := 3
  durationMs := 18446744073709551615
  artifacts := [picture, picture]
  error := some ⟨.elementNotFound, "#名\n"⟩
  startedAt := moment

/-- Two of three scenarios have passed. -/
def report : Report where
  runId := "\"r\""
  startedAt := moment
  finishedAt := moment
  environmentId := ""
  scenarios := [⟨"A", "a.json", .failed, [step], 12, [picture], none, moment⟩]
  summary := ⟨3, 2, 1, 1, 0, 1, 0, Summary.rate 2 3, false⟩
  cancelled := true

theorem moment_inBounds : moment.InBounds := ⟨by decide, by decide⟩

theorem picture_inBounds : picture.InBounds where
  stepId := by
    rintro _ ⟨⟩
    decide
  attempt := nofun
  capturedAt := moment_inBounds

theorem step_inBounds : step.InBounds where
  stepId := by decide
  attempts := by decide
  durationMs := by decide
  artifacts := List.forall_mem_cons.2 ⟨picture_inBounds, List.forall_mem_singleton.2 picture_inBounds⟩
  startedAt := moment_inBounds

theorem report_inBounds : report.InBounds where
  startedAt := moment_inBounds
  finishedAt := moment_inBounds
  scenarios := List.forall_mem_singleton.2
    ⟨List.forall_mem_singleton.2 step_inBounds, by decide,
      List.forall_mem_singleton.2 picture_inBounds, moment_inBounds⟩
  summary := ⟨by decide, by decide, by decide, by decide, by decide, by decide, by decide,
    by decide +kernel⟩

theorem rate_isReadBack : IsReadBack report.summary.successRate :=
  (isReadBack_iff report_inBounds.summary.successRate).2 (by decide +kernel)

theorem parse_render_report : report.InBounds ∧ IsReadBack report.summary.successRate ∧
    parse report.render = .ok report :=
  ⟨report_inBounds, rate_isReadBack, parse_render report_inBounds rate_isReadBack⟩

end Sample

end Report
end Walkthrough
