import Walkthrough.Files.Tree
import Walkthrough.Report.Record
import Walkthrough.Text.Base64

/-!
# Walkthrough.Report.Markdown

The report for readers: a summary, a table of the steps of every scenario, and the captures.

* `cell` keeps a text inside its column of a table.
* `markdown` shows of the captures those that it is given.
-/

namespace Walkthrough
namespace Report

def passedLabel (passed : Bool) : String := if passed then "PASSED" else "FAILED"

def StepStatus.label : StepStatus → String
  | .passed => "PASSED"
  | .failed => "FAILED"
  | .skipped => "SKIPPED"

/-- A character inside a cell. -/
def cellChar (c : Char) : List Char :=
  if c = '|' then ['\\', '|'] else if c = '\r' ∨ c = '\n' then [' '] else [c]

/-- A text as it stands in a cell. -/
def cell (s : String) : String := Text.expand cellChar s

def lines (ls : List String) : String := String.join (ls.map fun l => l ++ "\n")

/-- A row of a table. -/
def row (cells : List String) : String := "| " ++ String.intercalate " | " cells ++ " |"

/-- The line below the head of a table. -/
def rule (columns : Nat) : String := String.join (List.replicate columns "|---") ++ "|"

def ErrorDetail.text (e : ErrorDetail) : String := e.kind.title ++ ": " ++ e.message

def stepColumns : List String :=
  ["#", "Step", "Action", "Status", "Attempts", "Duration", "Error"]

def stepCells (s : StepResult) : List String :=
  [Nat.repr s.stepId, cell s.stepName, s.action.word, s.status.label, Nat.repr s.attempts,
    Nat.repr s.durationMs ++ " ms", cell ((s.error.map ErrorDetail.text).getD "")]

/-- The table of the steps of a scenario, if it has any. -/
def stepTable (steps : List StepResult) : String :=
  if steps.isEmpty then ""
  else
    lines (row stepColumns :: rule stepColumns.length :: steps.map fun s => row (stepCells s))
      ++ "\n"

/-- What a capture shows. -/
def Artifact.caption (a : Artifact) : String :=
  match a.stepId, a.attempt with
  | some step, some attempt => "Step " ++ Nat.repr step ++ ", attempt " ++ Nat.repr attempt
  | some step, none => "Step " ++ Nat.repr step
  | _, _ => "Scenario"

/-- Where a document finds a picture: in itself, if it is to be embedded and can be read. -/
def source (tree : Files.Tree) (embed : Bool) (path : String) : String :=
  if embed then
    match tree.read path with
    | .ok bytes => "data:image/png;base64," ++ Text.Base64.encode bytes
    | .error _ => path
  else path

/-- A capture as a part of the document. -/
def Artifact.markdown (tree : Files.Tree) (embed : Bool) (a : Artifact) : String :=
  let caption := a.caption
  match a.kind with
  | .screenshot =>
    lines ["**" ++ caption ++ "**", "",
      "![" ++ caption ++ "](" ++ source tree embed a.path ++ ")", ""]
  | .video => lines ["- " ++ caption ++ " video: [" ++ a.path ++ "](" ++ a.path ++ ")"]

/-- The captures of a scenario that the document shows. -/
def ScenarioResult.evidence (shown : List Artifact) (s : ScenarioResult) : List Artifact :=
  s.allArtifacts.filter fun a => shown.any (·.same a)

/-- The captures of a scenario, if there are any to show. -/
def evidenceSection (tree : Files.Tree) (embed : Bool) (shown : List Artifact) : String :=
  if shown.isEmpty then ""
  else lines ["### Evidence", ""] ++ String.join (shown.map (·.markdown tree embed)) ++ "\n"

/-- The part of a scenario, which is the one with a number. -/
def scenarioSection (tree : Files.Tree) (embed : Bool) (shown : List Artifact) (number : Nat)
    (s : ScenarioResult) : String :=
  lines
      (["## " ++ Nat.repr number ++ ". " ++ s.name ++ " (" ++ passedLabel s.passed ++ ")", "",
          "- **File:** " ++ s.scenarioFile,
          "- **Duration:** " ++ Nat.repr s.durationMs ++ " ms"]
        ++ (match s.error with
          | none => []
          | some e => ["- **Error (" ++ e.kind.title ++ "):** " ++ e.message])
        ++ [""])
    ++ stepTable s.steps
    ++ evidenceSection tree embed (s.evidence shown)

/-- The numbers of a run by their names. -/
def Summary.metrics (s : Summary) : List (String × String) :=
  [("Total scenarios", Nat.repr s.totalScenarios), ("Passed scenarios", Nat.repr s.passedScenarios),
    ("Failed scenarios", Nat.repr s.failedScenarios), ("Total steps", Nat.repr s.totalSteps),
    ("Passed steps", Nat.repr s.passedSteps), ("Failed steps", Nat.repr s.failedSteps),
    ("Skipped steps", Nat.repr s.skippedSteps), ("Success rate", s.successRate.fixed 2 ++ "%")]

/-- The result of a run in a word. -/
def verdict (r : Report) : String := if r.cancelled then "CANCELLED" else passedLabel r.passed

/-- The document for readers. -/
def markdown (r : Report) (tree : Files.Tree) (shown : List Artifact) (embed : Bool) : String :=
  lines
      (["# Test Execution Report", "", "- **Run ID:** " ++ r.runId,
          "- **Environment:** " ++ r.environmentId, "- **Started:** " ++ r.startedAt.shown,
          "- **Finished:** " ++ r.finishedAt.shown, "- **Result:** " ++ r.verdict, "",
          "## Summary", "", row ["Metric", "Value"], rule 2]
        ++ r.summary.metrics.map (fun m => row [m.1, m.2])
        ++ [""])
    ++ String.join (r.scenarios.zipIdx.map fun s =>
        scenarioSection tree embed shown (s.2 + 1) s.1)

end Report
end Walkthrough
