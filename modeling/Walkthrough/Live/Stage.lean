import Std.Time.DateTime.Timestamp
import Walkthrough.Capture.Store
import Walkthrough.Live.Connection
import Walkthrough.Live.Disk
import Walkthrough.Power
import Walkthrough.Run.Basic
import Walkthrough.WebDriver.Client

/-!
# Walkthrough.Live.Stage

Runs with browsers behind a network, with captures on the disk and on the clock of the machine.

* `Stage.answer` gives the answers that a program asks for.
* `Stage.results` has the scenarios of a plan carried out, by several workers if they run side by
  side.
-/

namespace Walkthrough
namespace Live

open Browser
open Run (Answer)

/-- The date. -/
def today : IO Timestamp := do
  let nanos := (← Std.Time.Timestamp.now).toNanosecondsSinceUnixEpoch.toInt.toNat
  return .sinceEpoch (nanos / tenTo 9) (nanos % tenTo 9)

/-- Somebody who takes the pictures of a recording. -/
structure Cameraman where
  /-- No other picture is wanted. -/
  enough : IO.Promise Unit
  /-- The picture that is being taken is not wanted, either. -/
  gone : IO.Promise Unit
  /-- The client with the pictures so far. -/
  client : IO.Ref WebDriver.Client
  /-- Ends with the last picture. -/
  work : Task Unit

/-- A session and who records it. -/
structure Seat where
  client : WebDriver.Client
  cameraman : Option Cameraman

structure Stage where
  setup : WebDriver.Setup
  store : Capture.Store
  /-- Kept when the run is cancelled. -/
  cancelled : IO.Promise Unit
  /-- The sessions in the order of their opening. -/
  seats : IO.Ref (Array Seat)

namespace Cameraman

/-- Take pictures at the times of a recording that starts now. -/
def film (enough gone : IO.Promise Unit) (client : IO.Ref WebDriver.Client) : IO Unit := do
  let start ← IO.monoMsNow
  let mut due := start
  repeat
    let now ← IO.monoMsNow
    let _ ← ((Patience.endless.orWhen (enough.resultD ()) .cancelled).sleep (due - now)).run
    if ← enough.isResolved then break
    let c ← client.get
    match c.recording with
    | none => break
    | some r =>
      if r.ended then break
      let patience := Patience.endless.orWhen (gone.resultD ()) .cancelled
      match ← (c.capture.run (fetch patience)).run with
      | .error _ => break
      | .ok c => client.set c
      due := start + (((← IO.monoMsNow) - start) / r.interval + 1) * r.interval

/-- Have somebody take the pictures of a recording. -/
def hire (c : WebDriver.Client) : IO Cameraman := do
  let enough ← IO.Promise.new
  let gone ← IO.Promise.new
  let client ← IO.mkRef c
  let work ← IO.asTask (film enough gone client) Task.Priority.dedicated
  return ⟨enough, gone, client, work.map fun _ => ()⟩

/-- Send somebody away at once. -/
def dismiss (c : Cameraman) : IO Unit := do
  c.enough.resolve ()
  c.gone.resolve ()

/-- Wait for the last picture. -/
def finish (c : Cameraman) (p : Patience) : Waiting WebDriver.Client := do
  c.enough.resolve ()
  p.await c.work
  c.client.get

end Cameraman

namespace Stage

/-- The patience that ends when the run is cancelled. -/
def patience (stage : Stage) : Patience :=
  Patience.endless.orWhen (stage.cancelled.resultD ()) .cancelled

/-- The seat of a session as a call finds it: some calls end a recording, and only one of them
waits for its last picture. -/
def seatFor (c : Call) (seat : Seat) (p : Patience) : Waiting WebDriver.Client := do
  match seat.cameraman, c with
  | none, _ => return seat.client
  | some cameraman, .stopVideo => cameraman.finish p
  | some cameraman, .startVideo _ | some cameraman, .close =>
    cameraman.dismiss
    return seat.client
  | some _, _ => return seat.client

/-- Does a call end a recording? -/
def endsVideo : Call → Bool
  | .startVideo _ | .stopVideo | .close => true
  | _ => false

/-- Make a call. -/
def call (stage : Stage) (session : Nat) (c : Call) (p : Patience) :
    Waiting (Except Browser.Fault c.Result) := do
  match (← stage.seats.get)[session]? with
  | none => return .error (.broken "no session" false)
  | some seat =>
    if endsVideo c then
      stage.seats.modify fun seats => seats.setIfInBounds session { seat with cameraman := none }
    let client ← seatFor c seat p
    let (result, client) ← (client.perform c).run (fetch p)
    let cameraman ←
      if c.startsVideo then some <$> (Cameraman.hire client : IO Cameraman)
      else if endsVideo c then pure none
      else pure seat.cameraman
    stage.seats.modify fun seats => seats.setIfInBounds session ⟨client, cameraman⟩
    return result

/-- Make a call that may be interrupted by its limit, too. -/
def limited (stage : Stage) (session : Nat) (c : Call) (limit : Duration) (p : Patience) :
    IO (Except Interruption (Except Browser.Fault c.Result)) :=
  (p.within limit.ceilMillis .late (stage.call session c)).run

/-- Open a session, and give its number. -/
def openSession (stage : Stage) : Waiting (Except Browser.Fault Nat) := do
  match ← stage.setup.start.run.run (fetch stage.patience) with
  | .error f => return .error f
  | .ok client =>
    let session ← (stage.seats.modifyGet fun seats => (seats.size, seats.push ⟨client, none⟩) :
      IO Nat)
    return .ok session

/-- Give the answer that is asked for. -/
def answer (stage : Stage) : (r : Run.Request) → IO (Answer r)
  | .token _ => stage.cancelled.isResolved
  | .now => do return (⟨← today, ← IO.monoMsNow⟩ : Run.Moment)
  | .permit => pure ()
  | .openSession => do
    if ← stage.cancelled.isResolved then return none
    match ← stage.openSession.run with
    | .ok opened => return some opened
    | .error _ => return none
  | .call session c limit => do
    if ← stage.cancelled.isResolved then return (.cancelled, 0)
    let start ← IO.monoMsNow
    let ended ← stage.limited session c limit stage.patience
    let spent := (← IO.monoMsNow) - start
    match ended with
    | .ok result => return (.answered result, spent)
    | .error .cancelled => return (.cancelled, spent)
    | .error _ => return (.late, spent)
  | .shielded session c limit => do
    match ← stage.limited session c limit .endless with
    | .ok result => return some result
    | .error _ => return none
  | .rest span => do
    let start ← IO.monoMsNow
    match ← (stage.patience.sleep span.ceilMillis).run with
    | .ok () => return some ((← IO.monoMsNow) - start - span.ceilMillis)
    | .error _ => return none
  | .store key bytes => do
    let path := stage.store.pathOf key
    match ← (save path bytes).toBaseIO with
    | .ok () => return some path
    | .error _ => return none

/-- Carry out scenarios that nobody has begun, one after the other. -/
def work (stage : Stage) (plan : Config.Plan) (tree : Files.Tree)
    (waiting : IO.Ref (List (Config.Entry × Nat)))
    (done : IO.Ref (List (Nat × Report.ScenarioResult))) : IO Unit := do
  repeat
    let next? ← waiting.modifyGet fun entries => (entries.head?, entries.tail)
    match next? with
    | none => break
    | some (entry, index) =>
      match ← (Run.placed plan tree entry).handle stage.answer with
      | none => pure ()
      | some result => done.modify fun results => (index, result) :: results

/-- The results of the scenarios of a plan. -/
def results (stage : Stage) (plan : Config.Plan) (tree : Files.Tree) :
    IO (List (Nat × Report.ScenarioResult)) := do
  let entries := plan.selected.zipIdx
  if Run.isParallel plan then
    let waiting ← IO.mkRef entries
    let done ← IO.mkRef []
    let workers ← (List.range (min (Run.workers plan) entries.length)).mapM fun _ =>
      IO.asTask (stage.work plan tree waiting done) Task.Priority.dedicated
    for worker in workers do
      let _ ← IO.wait worker
    done.get
  else
    Run.inTurn (fun entry _ => (Run.admitted plan tree entry).handle stage.answer) entries

end Stage
end Live
end Walkthrough
