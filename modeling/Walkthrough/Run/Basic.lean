import Walkthrough.Report.Collector
import Walkthrough.Run.Crew
import Walkthrough.Run.Scenario

/-!
# Walkthrough.Run.Basic

A run of a plan: the scenarios that it takes, one after the other or side by side, and the report
of their results.

* `admitted` starts no scenario once the run is cancelled.
* `run` gives the report, whatever happens.
-/

namespace Walkthrough
namespace Run

open Report

/-- A scenario whose turn it is: it has no result when the run is cancelled by then. -/
def admitted (plan : Config.Plan) (tree : Files.Tree) (entry : Config.Entry) :
    Program (Option ScenarioResult) := do
  let cancelled : Bool ← Program.ask (.token .scenario)
  if cancelled then return none else some <$> scenario plan tree entry

/-- A scenario among others, which waits for its place. -/
def placed (plan : Config.Plan) (tree : Files.Tree) (entry : Config.Entry) :
    Program (Option ScenarioResult) := do
  Program.ask .permit
  admitted plan tree entry

/-- Scenarios one after the other, each with its place in the run, as long as they have results. -/
def inTurn {m : Type → Type} [Monad m] (act : Config.Entry → Nat → m (Option ScenarioResult)) :
    List (Config.Entry × Nat) → m (List (Nat × ScenarioResult))
  | [] => pure []
  | (entry, place) :: rest => do
    match ← act entry place with
    | none => return []
    | some result => return (place, result) :: (← inTurn act rest)

/-- Carry out a scenario whose turn it is. -/
def takeTurn {σ : Type} (w : World σ) (plan : Config.Plan) (tree : Files.Tree)
    (entry : Config.Entry) (place : Nat) : StateM (State σ) (Option ScenarioResult) :=
  fun st => (admitted plan tree entry).run w { st with place := place }

/-- How many scenarios of a plan may run at the same time. -/
def workers (plan : Config.Plan) : Nat := max 1 plan.master.framework.maxParallelWorkers

/-- Do the scenarios of a plan run side by side? -/
def isParallel (plan : Config.Plan) : Bool :=
  plan.master.framework.parallelExecution && plan.selected.length > 1

/-- How long a run may take; nothing when there is no limit. -/
def timeLimit (plan : Config.Plan) : Option Duration :=
  match plan.master.framework.runTimeout with
  | some seconds => if seconds.isAboveZero then Duration.ofSeconds? seconds else none
  | none => none

/-- The earlier of two moments, either of which may be missing. -/
def earlier : Option Nat → Option Nat → Option Nat
  | some a, some b => some (min a b)
  | some a, none => some a
  | none, b => b

/-- Begin the record of a run, and have the run cancelled when its time is up. -/
def armed {σ : Type} (plan : Config.Plan) (st : State σ) : State σ :=
  { st with
    cancelAt := earlier st.cancelAt ((timeLimit plan).map fun d => st.now + d.ceilMillis)
    notes := [] }

/-- The results of the scenarios, in the order in which they were done. -/
def results {σ : Type} (w : World σ) (schedule : Crew.Schedule σ (Option ScenarioResult))
    (plan : Config.Plan) (tree : Files.Tree) (st : State σ) :
    List (Nat × ScenarioResult) × State σ :=
  if isParallel plan then
    let crew := Crew.start (workers plan) (plan.selected.map (placed plan tree)) st
    let crew := crew.run w schedule
    (crew.finished.filterMap fun r => r.2.map fun a => (r.1, a), crew.state)
  else (inTurn (takeTurn w plan tree) plan.selected.zipIdx).run st

/-- The report of results, in whatever order they came. -/
def reportOf (plan : Config.Plan) (runId : String) (startedAt finishedAt : Timestamp)
    (cancelled : Bool) (rs : List (Nat × ScenarioResult)) : Report :=
  let collector := Collector.new runId plan.environment.id startedAt
  let collector := rs.foldl (fun c r => (c.append r.1 r.2).2) collector
  (collector.freeze cancelled finishedAt).1

/-- Run a plan and report. -/
def run {σ : Type} (w : World σ) (schedule : Crew.Schedule σ (Option ScenarioResult))
    (plan : Config.Plan) (tree : Files.Tree) (runId : String) (st : State σ) : Report × State σ :=
  let (rs, after) := results w schedule plan tree (armed plan st)
  -- The run may be cancelled until the report looks whether it was.
  let after := after.heed w .now
  (reportOf plan runId (w.wall st.now) (w.wall after.now) after.cancelled rs, after)

end Run
end Walkthrough
