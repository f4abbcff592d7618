import Std.Async.Timer
import Walkthrough.Power

/-!
# Walkthrough.Live.Patience

Waiting for what goes on elsewhere, until something else is more urgent.

* `Patience.await` waits for a task, `Patience.sleep` for a while.
* `Patience.within` is the patience for something with a limit.
-/

namespace Walkthrough
namespace Live

/-- Why something was no longer waited for. -/
inductive Interruption where
  | cancelled
  /-- The limit of a call was reached. -/
  | late
  /-- A reply took too long. -/
  | overdue
deriving DecidableEq, Repr

/-- Something that may be interrupted. -/
abbrev Waiting (α : Type) : Type := ExceptT Interruption IO α

/-- What ends the waiting. -/
structure Patience where
  ends : List (Task Unit × Interruption)

namespace Patience

def endless : Patience := ⟨[]⟩

/-- The patience that ends when a task does. -/
def orWhen (p : Patience) (ending : Task Unit) (why : Interruption) : Patience :=
  ⟨p.ends ++ [(ending, why)]⟩

/-- Wait for a task. One that is done in time counts, unless it is not wanted any more. -/
def await {α : Type} (p : Patience) (task : Task α) : Waiting α := do
  let _ ← (IO.waitAny (task.map (fun _ => ()) :: p.ends.map (·.1)) : BaseIO Unit)
  for (ending, why) in p.ends do
    if why = .cancelled && (← IO.hasFinished ending) then throw why
  if ← IO.hasFinished task then return task.get
  for (ending, why) in p.ends do
    if ← IO.hasFinished ending then throw why
  return task.get

/-- The longest time that is measured, in milliseconds. -/
def longest : Nat := twoTo 50

/-- Do something while a timer runs for some milliseconds. -/
def withTimer {α : Type} (millis : Nat) (act : Task Unit → IO α) : IO α := do
  let timer ← (Std.Async.Sleep.mk (.ofNat (min millis longest))).block
  let ended ← timer.wait.toIO
  try act (Task.map (fun _ => ()) ended)
  finally timer.stop

/-- Do something with a limit of some milliseconds. -/
def within {α : Type} (p : Patience) (millis : Nat) (why : Interruption)
    (act : Patience → Waiting α) : Waiting α :=
  ExceptT.mk (withTimer millis fun timer => (act (p.orWhen timer why)).run)

/-- Do nothing for some milliseconds. -/
def sleep (p : Patience) (millis : Nat) : Waiting Unit :=
  ExceptT.mk (withTimer millis fun timer => (p.await timer).run)

end Patience
end Live
end Walkthrough
