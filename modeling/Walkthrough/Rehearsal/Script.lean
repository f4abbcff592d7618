import Walkthrough.Run.World

/-!
# Walkthrough.Rehearsal.Script

A world that answers from a script, for runs without a browser. For every call the script may hold
a row of outcomes; the last of them stays for all further calls.

* `Script.take` finds the outcome of a call under its name and first argument, then under its name.
* `world` is the scripted world; its store keeps no bytes and numbers the artifacts.
-/

namespace Walkthrough
namespace Rehearsal

open Browser Run

/-- What a script says that a call answers. -/
inductive Said where
  | text (s : String)
  | flag (b : Bool)
  | number (n : Nat)
deriving DecidableEq, Repr

/-- What a script says about a call. -/
structure Outcome where
  said : Option Said
  fault : Option Browser.Fault
  delay : Nat
  cancels : Bool
deriving DecidableEq, Repr

/-- Nothing special: the call succeeds at once. -/
def Outcome.plain : Outcome := ⟨none, none, 0, false⟩

/-- Rows of outcomes by their keys. -/
abbrev Script : Type := List (String × List Outcome)

/-- The first of a row, and what stays of the row: the last one does. -/
def takeFirst {α : Type} (otherwise : α) : List α → α × List α
  | [] => (otherwise, [])
  | [a] => (a, [a])
  | a :: rest => (a, rest)

namespace Script

/-- Take an outcome from the row of a key, if there is such a row. -/
def takeKey? (key : String) : Script → Option (Outcome × Script)
  | [] => none
  | (k, outcomes) :: rest =>
    if k = key then
      let (o, left) := takeFirst .plain outcomes
      some (o, (k, left) :: rest)
    else (takeKey? key rest).map fun r => (r.1, (k, outcomes) :: r.2)

/-- The key of a call with its first argument; a call without one still has the blank. -/
def fullKey (c : Call) : String := c.name ++ " " ++ c.arguments.head?.getD ""

/-- Take the outcome of a call. -/
def take (c : Call) (script : Script) : Outcome × Script :=
  match script.takeKey? (fullKey c) with
  | some r => r
  | none =>
    match script.takeKey? c.name with
    | some r => r
    | none => (.plain, script)

end Script

/-- A session that follows a script. -/
structure Actor where
  script : Script
  /-- The address of the last page that was loaded. -/
  url : String
deriving Inhabited

/-- The result of a call, from what the script says and else by default. -/
def resultOf (actor : Actor) (said : Option Said) : (c : Call) → c.Result
  | .find l =>
    match said with
    | some (.text s) => ⟨s⟩
    | _ => (⟨l.text⟩ : Handle)
  | .textOf _ =>
    match said with
    | some (.text s) => s
    | _ => ""
  | .isDisplayed _ =>
    match said with
    | some (.flag b) => b
    | _ => true
  | .attributeOf _ _ =>
    match said with
    | some (.text s) => some s
    | _ => (none : Option String)
  | .count _ =>
    match said with
    | some (.number n) => n
    | _ => (1 : Nat)
  | .currentUrl =>
    match said with
    | some (.text s) => s
    | _ => actor.url
  | .title =>
    match said with
    | some (.text s) => s
    | _ => ""
  | .screenshot =>
    match said with
    | some (.text s) => s.toUTF8
    | _ => "PNG".toUTF8
  | .stopVideo =>
    match said with
    | some (.text s) => s.toUTF8
    | _ => ByteArray.empty
  | .navigate _ => ()
  | .click _ => ()
  | .doubleClick _ => ()
  | .contextClick _ => ()
  | .hover _ => ()
  | .selectOption _ _ => ()
  | .clear _ => ()
  | .typeText _ _ => ()
  | .refresh => ()
  | .back => ()
  | .forward => ()
  | .startVideo _ => ()
  | .close => ()

/-- The reaction that an outcome describes. -/
def reactionOf {α : Type} (o : Outcome) (otherwise : α) : Reaction (Except Browser.Fault α) where
  result :=
    match o.fault with
    | some f => .error f
    | none => .ok otherwise
  delay := o.delay
  cancels := o.cancels

/-- A script of a session, and the outcome of opening it. -/
structure Part where
  opening : Outcome
  script : Script

/-- A scripted world: what each session follows, and what becomes of stored bytes. -/
structure Stage where
  /-- The parts of the sessions in the order of their opening; the last one stays. -/
  parts : List Part
  /-- The sessions that were asked for. -/
  actors : List Actor
  storing : List Outcome
  /-- How often something was to be stored. -/
  stored : Nat

namespace Stage

/-- The part of a session. -/
def part (s : Stage) (session : Nat) : Part :=
  match s.parts[session]? with
  | some p => p
  | none => s.parts.getLast?.getD ⟨.plain, []⟩

def actor (s : Stage) (session : Nat) : Actor := s.actors[session]?.getD default

def setActor (s : Stage) (session : Nat) (a : Actor) : Stage :=
  { s with actors := s.actors.set session a }

end Stage

/-- The world of a stage, whose clock starts at a date. -/
def world (start : Timestamp) : World Stage where
  opening session stage :=
    let part := stage.part session
    (reactionOf part.opening (), { stage with actors := stage.actors ++ [⟨part.script, ""⟩] })
  reaction session call stage :=
    let actor := stage.actor session
    let (o, script) := actor.script.take call
    (reactionOf o (resultOf actor o.said call),
      stage.setActor session { actor with script := script })
  settled session call stage :=
    match call with
    | .navigate url => stage.setActor session { stage.actor session with url := url }
    | _ => stage
  storing _ _ stage :=
    let (o, left) := takeFirst .plain stage.storing
    let number := stage.stored + 1
    let path := if o.fault.isNone then some ("mem/" ++ Nat.repr number) else none
    (.atOnce path, { stage with storing := left, stored := number })
  interrupts _ stage := (false, stage)
  wall millis := start.later millis

end Rehearsal
end Walkthrough
