import Walkthrough.CommandLine.Message
import Walkthrough.CommandLine.Options
import Walkthrough.Config.Check
import Walkthrough.Report.Publication
import Walkthrough.Run.Basic

/-!
# Walkthrough.CommandLine.Basic

From options to messages and an exit status.

* `prepare` loads and checks what is to be run; it stops before a run that would be pointless.
* `conclude` says what came of a run; reports that cannot be written do not change it.
* `perform` does both and the run between them, on any grounds.
-/

namespace Walkthrough
namespace CommandLine

open Report

/-- How the program ends. -/
inductive Exit where
  | success
  /-- A run did not pass. -/
  | failure
  /-- Nothing could be run. -/
  | unusable
deriving DecidableEq, Repr

def Exit.code : Exit → Nat
  | .success => 0
  | .failure => 1
  | .unusable => 2

/-- How the program ends when no run is asked for. -/
def Stop.exit : Stop → Exit
  | .help | .version => .success
  | .misuse _ => .unusable

/-- A number and what it counts. -/
def counted (n : Nat) (what : String) : String := Nat.repr n ++ " " ++ what

/-- The complaint about a plan that cannot be loaded, and which environments there are if one was
named. -/
def loadMessages (o : Options) (tree : Files.Tree) (r : Config.Refusal) : List Message :=
  let complaint := Message.bare .error ("Failed to load configuration: " ++ r.message)
  match o.environment, Config.listEnvironments tree o.profileDirectory with
  | some _, .ok ids =>
    [complaint, .bare .info ("Available environments: " ++ String.intercalate ", " ids)]
  | _, _ => [complaint]

/-- Problems, each in a message of its own. -/
def problemMessages (level : Level) (colour : Colour) (ps : List Config.Problem) : List Message :=
  ps.map fun p => .tinted level colour p.message

/-- What was loaded and checked: a plan to run, or the end. -/
abbrev Prepared : Type := Except Exit Config.Plan

/-- Check a plan before it is run. -/
def examine (validateOnly : Bool) (tree : Files.Tree) (plan : Config.Plan) :
    List Message × Prepared :=
  let checks := Config.preflight plan tree
  let failing := checks.scenarios.length
  if !checks.fatal.isEmpty then
    (problemMessages .error .red checks.fatal
      ++ [.bare .error ("Configuration has " ++ counted checks.fatal.length "problem(s)")],
      .error .unusable)
  else if validateOnly then
    if failing = 0 then ([.bare .info "Configuration is valid"], .error .success)
    else
      (problemMessages .error .red checks.scenarios
        ++ [.bare .error (counted failing "scenario(s) failed validation")],
        .error .unusable)
  else if failing = 0 then ([], .ok plan)
  else
    (problemMessages .warning .yellow checks.scenarios
      ++ [.bare .warning
        (counted failing "scenario(s) will be reported as failed; running the rest")],
      .ok plan)

/-- Load and check what the options name. -/
def prepare (o : Options) (vars : String → Option String) (tree : Files.Tree) :
    List Message × Prepared :=
  match Config.Plan.load tree vars o.config o.environment o.profileDirectory with
  | .error r => (loadMessages o tree r, .error .unusable)
  | .ok plan => examine o.validateOnly tree (plan.override o.overrides)

/-- The message when the user wants a run to end. -/
def interruptMessage : Message := .bare .warning "Interrupt received, cancelling run"

/-- The message at the start of a run. -/
def startMessage (plan : Config.Plan) (runId : String) : Message :=
  .bare .info ("Running scenarios in environment '" ++ plan.environment.id ++ "' (run " ++ runId
    ++ ")")

/-- A failure, set off under what it belongs to. -/
def errorMessages (e : Option ErrorDetail) : List Message :=
  match e with
  | none => []
  | some e => [⟨.error, [.bare "     ", .tinted .red (e.kind.title ++ ": " ++ e.message)]⟩]

/-- The mark of a step. -/
def mark : StepStatus → Span
  | .passed => .tinted .green "✓"
  | .failed => .tinted .red "✗"
  | .skipped => .tinted .yellow "-"

def stepMessages (s : StepResult) : List Message :=
  ⟨.info,
    [.bare ("  " ++ Nat.repr s.stepId ++ ". "), mark s.status,
      .bare (" " ++ s.stepName ++ " (" ++ counted s.durationMs "ms, "
        ++ counted s.attempts "attempt(s))")]⟩ :: errorMessages s.error

/-- The result of a scenario and of its steps. -/
def scenarioMessages (r : ScenarioResult) : List Message :=
  let verdict : Span := if r.passed then .tinted .green "PASS" else .tinted .red "FAIL"
  ⟨.info, [verdict, .bare (" scenario: " ++ r.name ++ " (" ++ counted r.durationMs "ms)")]⟩
    :: (errorMessages r.error ++ r.steps.flatMap stepMessages)

/-- The numbers of a run, and a warning when it was cut short. -/
def summaryMessages (report : Report) (millis : Nat) : List Message :=
  let s := report.summary
  let spans : List Span :=
    [.bare ("Summary:\n  Total: " ++ Nat.repr s.totalScenarios ++ "\n  "),
      .tinted .green ("Passed: " ++ Nat.repr s.passedScenarios), .bare "\n  ",
      .tinted .red ("Failed: " ++ Nat.repr s.failedScenarios),
      .bare ("\n  Steps: " ++ counted s.passedSteps "passed, " ++ counted s.failedSteps "failed, "
        ++ counted s.skippedSteps "skipped\n  Success rate: " ++ s.successRate.fixed 1
        ++ "%\n  Duration: " ++ counted millis "ms")]
  ⟨.info, spans⟩ ::
    (if report.cancelled then
      [.bare .warning "Run was cancelled before all scenarios finished"]
    else [])

/-- What came of a run that took some milliseconds. -/
def conclude (report : Report) (millis : Nat) : List Message × Exit :=
  (report.scenarios.flatMap scenarioMessages ++ summaryMessages report millis,
    if report.passed then .success else .failure)

/-- What a run is made on: the world of a plan, whose captures belong to the run with a stamp, and
the files in it. -/
structure Grounds (σ : Type) where
  world : Config.Plan → String → Run.World σ
  files : σ → Files.Tree

/-- What the program leaves behind. -/
structure Ending (σ : Type) where
  messages : List Message
  exit : Exit
  /-- The files, with the reports among them. -/
  files : Files.Tree
  /-- How things stood when the reports were written. -/
  state : Run.State σ

/-- Do what the options say, at a moment and from a state. -/
def perform {σ : Type} (g : Grounds σ)
    (schedule : Run.Crew.Schedule σ (Option ScenarioResult)) (o : Options)
    (vars : String → Option String) (start : Timestamp) (st : Run.State σ) :
    Ending σ :=
  let tree := g.files st.world
  match prepare o vars tree with
  | (messages, .error exit) => ⟨messages, exit, tree, st⟩
  | (messages, .ok plan) =>
    let runId := start.runStamp
    let (report, after) := Run.run (g.world plan runId) schedule plan tree runId st
    let (said, exit) := conclude report (after.now - st.now)
    let (_, files) := publish (.ofReporting plan.master.reporting) plan.master.reporting report
      (g.files after.world)
    ⟨messages ++ [startMessage plan runId] ++ said, exit, files, after⟩

end CommandLine
end Walkthrough
