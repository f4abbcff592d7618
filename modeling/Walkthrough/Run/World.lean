import Walkthrough.Run.Program

/-!
# Walkthrough.Run.World

The world that a program asks: how browsers and the store react, what the clock shows, and when the
run is cancelled.

* A `World` gives the reaction to everything that can be asked, with its delay.
* `begin` starts a request; what it does not answer at once is a `Flight`, which lands at its due
  moment or is cut short by cancellation.
* `Program.run` runs a single program to its end.
-/

namespace Walkthrough
namespace Run

open Browser

/-- How a browser or a store reacts. -/
structure Reaction (α : Type) where
  result : α
  /-- The milliseconds before the result is there. -/
  delay : Nat
  /-- The run is cancelled as soon as the reaction begins. -/
  cancels : Bool

/-- What happens at once. -/
def Reaction.atOnce {α : Type} (result : α) : Reaction α := ⟨result, 0, false⟩

/-- Browsers and a store, whose reactions may depend on all that happened before. -/
structure World (σ : Type) where
  /-- The reaction to a session being opened, which is to have the given number. -/
  opening : Nat → σ → Reaction (Except Browser.Fault Unit) × σ
  reaction : Nat → (c : Call) → σ → Reaction (Except Browser.Fault c.Result) × σ
  /-- What becomes of the world when a call has succeeded. -/
  settled : Nat → Call → σ → σ
  storing : Capture.Key → ByteArray → σ → Reaction (Option String) × σ
  /-- Does somebody cancel the run just before something is asked? -/
  interrupts : Request → σ → Bool × σ
  /-- The date that clocks show after some milliseconds. -/
  wall : Nat → Timestamp

/-- Something that happened. -/
inductive Event where
  /-- The run was not cancelled when something was to go ahead. -/
  | started (what : Undertaking)
  | opening (session : Nat)
  | opened (session : Nat)
  /-- The browser gave no session. -/
  | refused (session : Nat)
  /-- A session is no longer waited for. -/
  | abandoned (session : Nat)
  | called (session : Nat) (call : Call)
  /-- A call has ended: answered, late, or no longer waited for. -/
  | ended (session : Nat) (call : Call)
  | stored (key : Capture.Key) (bytes : ByteArray) (path : Option String)

/-- A line of the record of a run. -/
inductive Note where
  /-- Something happened for the scenario at a place. -/
  | event (moment place : Nat) (e : Event)
  /-- The run was cancelled. -/
  | cancelled (moment : Nat)

/-- How things stand. -/
structure State (σ : Type) where
  /-- The milliseconds since the start. -/
  now : Nat
  cancelled : Bool
  /-- The moment at which the run is cancelled from outside. -/
  cancelAt : Option Nat
  /-- The number of sessions that were asked for. -/
  sessions : Nat
  world : σ
  /-- The place of the scenario that goes on. -/
  place : Nat
  /-- The record of the run, the latest first. -/
  notes : List Note

namespace State

variable {σ : Type}

/-- The state at the start. -/
def initial (world : σ) (cancelAt : Option Nat) : State σ := ⟨0, false, cancelAt, 0, world, 0, []⟩

/-- What happened and when, the latest first. -/
def journal (st : State σ) : List (Nat × Event) :=
  st.notes.filterMap fun n =>
    match n with
    | .event moment _ e => some (moment, e)
    | .cancelled _ => none

/-- Note that something happened. -/
def note (st : State σ) (e : Event) : State σ :=
  { st with notes := .event st.now st.place e :: st.notes }

/-- Cancel the run, if it is not cancelled yet. -/
def stop (st : State σ) : State σ :=
  if st.cancelled then st
  else { st with cancelled := true, notes := .cancelled st.now :: st.notes }

def stopIf (st : State σ) (stops : Bool) : State σ := if stops then st.stop else st

/-- Set the clock forward. -/
def pass (st : State σ) (moment : Nat) : State σ := { st with now := max st.now moment }

/-- Let time pass until a moment. -/
def advance (st : State σ) (moment : Nat) : State σ :=
  match st.cancelAt with
  | some c => if c ≤ max st.now moment then (st.pass c).stop.pass moment else st.pass moment
  | none => st.pass moment

end State

/-- What an answer brings with it. -/
inductive Landing where
  | nothing
  /-- A place among the workers. -/
  | placed
  | opened (session : Nat) (succeeded : Bool)
  | ended (session : Nat) (call : Call) (succeeded : Bool)
  | stored (key : Capture.Key) (bytes : ByteArray) (path : Option String)

namespace Landing

/-- What has happened when the answer is there. -/
def event? : Landing → Option Event
  | .opened session true => some (.opened session)
  | .opened session false => some (.refused session)
  | .ended session call _ => some (.ended session call)
  | .stored key bytes path => some (.stored key bytes path)
  | _ => none

/-- What has happened when the answer is no longer waited for. -/
def loss? : Landing → Option Event
  | .opened session _ => some (.abandoned session)
  | .ended session call _ => some (.ended session call)
  | _ => none

end Landing

/-- A request that waits for its answer. -/
structure Flight (r : Request) where
  /-- When its answer is there. -/
  due : Nat
  /-- The answer at a moment. -/
  answer : Nat → Answer r
  landing : Landing
  /-- The answer when the run is cancelled at a moment; nothing if the request goes on. -/
  cutShort : Option (Nat → Answer r)

/-- A request that has begun. -/
inductive Begun (r : Request) where
  | done (a : Answer r)
  | flying (f : Flight r)

/-- Note what happened, if anything did. -/
def State.note? {σ : Type} (st : State σ) : Option Event → State σ
  | some e => st.note e
  | none => st

/-- The world when an answer has landed. -/
def settle {σ : Type} (w : World σ) (st : State σ) : Landing → State σ
  | .ended session call true => { st with world := w.settled session call st.world }
  | _ => st

/-- What becomes of a state when an answer lands. -/
def land {σ : Type} (w : World σ) (st : State σ) (l : Landing) : State σ :=
  settle w (st.note? l.event?) l

/-- What becomes of a state when an answer is no longer waited for. -/
def drop {σ : Type} (st : State σ) (l : Landing) : State σ := st.note? l.loss?

/-- Start a flight. One that is due at once has landed; one that a call of its own cancels is cut
short. -/
def launch {σ : Type} {r : Request} (w : World σ) (st : State σ) (f : Flight r) : Begun r × State σ :=
  if f.due ≤ st.now then (.done (f.answer st.now), land w st f.landing)
  else
    match st.cancelled, f.cutShort with
    | true, some answer => (.done (answer st.now), drop st f.landing)
    | _, _ => (.flying f, st)

def succeeds {α : Type} : Except Browser.Fault α → Bool
  | .ok _ => true
  | .error _ => false

/-- Ask a browser for a session, which gets the next number. -/
def State.open {σ : Type} (w : World σ) (st : State σ) :
    Reaction (Except Browser.Fault Unit) × State σ :=
  let (reaction, world) := w.opening st.sessions st.world
  (reaction,
    { st.note (.opening st.sessions) with world := world, sessions := st.sessions + 1 }.stopIf
      reaction.cancels)

/-- Ask a browser for a call. -/
def State.call {σ : Type} (w : World σ) (st : State σ) (session : Nat) (c : Call) :
    Reaction (Except Browser.Fault c.Result) × State σ :=
  let (reaction, world) := w.reaction session c st.world
  (reaction, { st.note (.called session c) with world := world }.stopIf reaction.cancels)

/-- Ask the store to keep bytes. -/
def State.store {σ : Type} (w : World σ) (st : State σ) (key : Capture.Key) (bytes : ByteArray) :
    Reaction (Option String) × State σ :=
  let (reaction, world) := w.storing key bytes st.world
  (reaction, { st with world := world }.stopIf reaction.cancels)

namespace Flight

/-- Waiting for a place among the workers. -/
def queueing (since : Nat) : Flight .permit where
  due := since
  answer _ := ()
  landing := .placed
  cutShort := none

/-- Waiting for a session. -/
def opening (since session : Nat) (reaction : Reaction (Except Browser.Fault Unit)) :
    Flight .openSession where
  due := since + reaction.delay
  answer _ := some (reaction.result.map fun _ => session)
  landing := .opened session (succeeds reaction.result)
  cutShort := some fun _ => none

/-- Waiting for a call, as long as its limit allows. -/
def calling (since session : Nat) (c : Call) (limit : Duration)
    (reaction : Reaction (Except Browser.Fault c.Result)) : Flight (.call session c limit) :=
  let cap := limit.ceilMillis
  let answers := reaction.delay ≤ cap
  { due := since + min reaction.delay cap
    answer := fun t => (if answers then .answered reaction.result else .late, t - since)
    landing := .ended session c (answers && succeeds reaction.result)
    cutShort := some fun t => (.cancelled, t - since) }

/-- Waiting for a call, as long as its limit allows, whether or not the run is cancelled. -/
def shielding (since session : Nat) (c : Call) (limit : Duration)
    (reaction : Reaction (Except Browser.Fault c.Result)) : Flight (.shielded session c limit) :=
  let cap := limit.ceilMillis
  let answers := reaction.delay ≤ cap
  { due := since + min reaction.delay cap
    answer := fun _ => if answers then some reaction.result else none
    landing := .ended session c (answers && succeeds reaction.result)
    cutShort := none }

/-- Doing nothing for a while. -/
def resting (since : Nat) (span : Duration) : Flight (.rest span) :=
  let due := since + span.ceilMillis
  { due := due
    answer := fun t => some (t - due)
    landing := .nothing
    cutShort := some fun _ => none }

/-- Waiting for the store. -/
def storing (since : Nat) (key : Capture.Key) (bytes : ByteArray)
    (reaction : Reaction (Option String)) : Flight (.store key bytes) where
  due := since + reaction.delay
  answer _ := reaction.result
  landing := .stored key bytes reaction.result
  cutShort := none

end Flight

/-- Start a request that nobody interrupts. -/
def serve {σ : Type} (w : World σ) (st : State σ) : (r : Request) → Begun r × State σ
  | .token next => if st.cancelled then (.done true, st) else (.done false, st.note (.started next))
  | .now => (.done ⟨w.wall st.now, st.now⟩, st)
  | .permit => (.flying (.queueing st.now), st)
  | .openSession =>
    if st.cancelled then (.done none, st)
    else
      let (reaction, asked) := st.open w
      launch w asked (.opening asked.now st.sessions reaction)
  | .call session c limit =>
    if st.cancelled then (.done (.cancelled, 0), st)
    else
      let (reaction, asked) := st.call w session c
      launch w asked (.calling asked.now session c limit reaction)
  | .shielded session c limit =>
    let (reaction, asked) := st.call w session c
    launch w asked (.shielding asked.now session c limit reaction)
  | .rest span =>
    if st.cancelled then (.done none, st) else launch w st (.resting st.now span)
  | .store key bytes =>
    let (reaction, asked) := st.store w key bytes
    launch w asked (.storing asked.now key bytes reaction)

/-- Let the world interrupt the run just before a request. -/
def State.heed {σ : Type} (w : World σ) (st : State σ) (r : Request) : State σ :=
  let (stops, world) := w.interrupts r st.world
  { st with world := world }.stopIf stops

/-- Start a request. -/
def begin {σ : Type} (w : World σ) (st : State σ) (r : Request) : Begun r × State σ :=
  serve w (st.heed w r) r

/-- The moment at which a flight is cut short: at once when the run is cancelled, else when it is
cancelled from outside before the flight lands or as it lands. -/
def Flight.cutAt? {σ : Type} {r : Request} (f : Flight r) (st : State σ) : Option Nat :=
  if st.cancelled then some st.now
  else
    match st.cancelAt with
    | some c => if c ≤ max f.due st.now then some (max c st.now) else none
    | none => none

/-- Wait for the end of a flight. -/
def finish {σ : Type} {r : Request} (w : World σ) (st : State σ) (f : Flight r) :
    Answer r × State σ :=
  match f.cutShort, f.cutAt? st with
  | some answer, some c => (answer c, drop (st.advance c).stop f.landing)
  | _, _ =>
    let st := st.advance f.due
    (f.answer st.now, land w st f.landing)

/-- The answer to a request, and how things stand when it is there. -/
def respond {σ : Type} (w : World σ) (st : State σ) (r : Request) : Answer r × State σ :=
  match begin w st r with
  | (.done a, st) => (a, st)
  | (.flying f, st) => finish w st f

/-- Run a program to its end. -/
def Program.run {σ α : Type} (w : World σ) : Program α → State σ → α × State σ
  | .pure a, st => (a, st)
  | .perform r k, st =>
    let (a, st) := respond w st r
    (k a).run w st

theorem Program.run_bind {σ α β : Type} (w : World σ) (p : Program α) (f : α → Program β)
    (st : State σ) :
    (p.bind f).run w st = (f (p.run w st).1).run w (p.run w st).2 := by
  induction p generalizing st with
  | pure a => rfl
  | perform r k ih => exact ih _ _

end Run
end Walkthrough
