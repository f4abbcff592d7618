import Std.Async.Signal
import Std.Async.System
import Walkthrough.CommandLine.Basic
import Walkthrough.CommandLine.Help
import Walkthrough.Live.Stage

/-!
# Walkthrough.Main

The program: it looks at the disk, runs the scenarios that it is asked for and writes the reports.
-/

namespace Walkthrough
namespace Live

open CommandLine

/-- Say something on the standard output. -/
def say (m : Message) : IO Unit := do
  IO.println (m.logged (← today))

/-- The variables of the process. -/
def processVariables : IO (String → Option String) := do
  return (← Std.Async.System.getEnv).get?

/-- The files that the options lead to. -/
def gather (o : Options) (vars : String → Option String) : IO Files.Tree := do
  let mut tree ← observe .empty o.config
  match o.environment with
  | none => pure ()
  | some id =>
    tree ← observeProfiles tree o.profileDirectory
    tree ← observe tree (Config.profilePath o.profileDirectory id)
  match Config.Plan.load tree vars o.config o.environment o.profileDirectory with
  | .error _ => return tree
  | .ok plan => (pathsOf (plan.override o.overrides)).foldlM observe tree

/-- Cancel a run when the user wants it to end. -/
def heedInterrupt (stage : Stage) : IO Unit := do
  let waiter ← Std.Async.Signal.Waiter.mk .sigint false
  let signal ← waiter.wait
  let _ ← IO.mapTask (fun received =>
    match received with
    | .error _ => pure ()
    | .ok _ => do
      say interruptMessage
      stage.cancelled.resolve ()) signal

/-- Carry out the scenarios of a plan, and cancel the run when its time is up. -/
def runWithin (stage : Stage) (plan : Config.Plan) (tree : Files.Tree) :
    IO (List (Nat × Report.ScenarioResult)) :=
  match Run.timeLimit plan with
  | none => stage.results plan tree
  | some limit =>
    Patience.withTimer limit.ceilMillis fun timer => do
      let done ← IO.mkRef false
      let _ ← BaseIO.mapTask (fun _ => do
        if !(← done.get) then stage.cancelled.resolve ()) timer
      let results ← stage.results plan tree
      done.set true
      return results

/-- Write the reports of a run. One that cannot be written is left out. -/
def publishReports (plan : Config.Plan) (tree : Files.Tree) (report : Report) : IO Unit := do
  let reporting := plan.master.reporting
  let captured ← (report.artifacts.map fun a => a.path).foldlM observe tree
  let (paths, files) := Report.publish (.ofReporting reporting) reporting report captured
  for path in paths do
    match files.read path with
    | .error _ => pure ()
    | .ok content =>
      let _ ← (save path content).toBaseIO

/-- Run a plan. -/
def runPlan (plan : Config.Plan) (tree : Files.Tree) : IO Exit := do
  let startedAt ← today
  let start ← IO.monoMsNow
  let runId := startedAt.runStamp
  let stage : Stage :=
    { setup := .ofPlan plan
      store := .ofSession plan.master.reporting runId
      cancelled := ← IO.Promise.new
      seats := ← IO.mkRef #[] }
  heedInterrupt stage
  say (startMessage plan runId)
  let results ← runWithin stage plan tree
  let report :=
    Run.reportOf plan runId startedAt (← today) (← stage.cancelled.isResolved) results
  let (messages, exit) := conclude report ((← IO.monoMsNow) - start)
  publishReports plan tree report
  messages.forM say
  return exit

/-- Do what the arguments say. -/
def perform (arguments : List String) : IO Exit := do
  let vars ← processVariables
  match wish vars arguments with
  | .error stop =>
    match stop with
    | .misuse _ => IO.eprintln (stop.text vars)
    | _ => IO.println (stop.text vars)
    return stop.exit
  | .ok o =>
    let tree ← gather o vars
    let (messages, prepared) := prepare o vars tree
    messages.forM say
    match prepared with
    | .error exit => return exit
    | .ok plan => runPlan plan tree

end Live
end Walkthrough

/-- The program ends with the code of what came of it. -/
def main (arguments : List String) : IO UInt32 := do
  return UInt32.ofNat (← Walkthrough.Live.perform arguments).code
