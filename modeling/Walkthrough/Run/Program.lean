import Walkthrough.Browser.Call
import Walkthrough.Capture.Key
import Walkthrough.Duration

/-!
# Walkthrough.Run.Program

Activities as data: what is asked of the world outside, and how to go on with each answer.

* `Request` lists what can be asked, `Answer` the type of what comes back.
* `Program` is a monad; `bind_pure` and `bind_assoc` are its laws.
* `handle` has any handler give the answers, and `handle_bind` says that it keeps to the order of
  what is asked.
* `Below` is the order of the rests of a program, and it is well founded: a program is done after
  finitely many answers, whatever they are.
-/

namespace Walkthrough
namespace Run

open Browser

/-- A moment on the two clocks: the one that shows the date and the one that measures spans. -/
structure Moment where
  wall : Timestamp
  millis : Nat

/-- How a call with a limit ended. -/
inductive Ending (α : Type) where
  | answered (result : Except Browser.Fault α)
  /-- The limit was reached before an answer came. -/
  | late
  /-- The run was cancelled before an answer came. -/
  | cancelled

/-- What goes ahead unless the run has been cancelled. -/
inductive Undertaking where
  | scenario
  | step (id : Nat)
  /-- Another attempt of a step. -/
  | attempt (id number : Nat)
deriving DecidableEq, Repr

/-- What a program asks of the world. -/
inductive Request where
  /-- Has the run been cancelled? If not, something goes ahead. -/
  | token (next : Undertaking)
  | now
  /-- Wait for a place among the workers. -/
  | permit
  /-- Open a browser session; waiting for it ends when the run is cancelled. -/
  | openSession
  /-- Make a call within a limit; waiting for it ends when the run is cancelled. -/
  | call (session : Nat) (call : Call) (limit : Duration)
  /-- Make a call within a limit, whether or not the run is cancelled. -/
  | shielded (session : Nat) (call : Call) (limit : Duration)
  /-- Do nothing for a while, or until the run is cancelled. -/
  | rest (span : Duration)
  | store (key : Capture.Key) (bytes : ByteArray)

/-- What comes back: for a session its number, unless the run was cancelled; for a call its ending
and how many milliseconds it took; for a shielded call its result, unless the limit was reached;
for a rest by how many milliseconds it was exceeded, unless the run was cancelled; for bytes where
they are, if they were stored. -/
def Answer : Request → Type
  | .token _ => Bool
  | .now => Moment
  | .permit => Unit
  | .openSession => Option (Except Browser.Fault Nat)
  | .call _ c _ => Ending c.Result × Nat
  | .shielded _ c _ => Option (Except Browser.Fault c.Result)
  | .rest _ => Option Nat
  | .store _ _ => Option String

/-- An activity that ends with a value. -/
inductive Program (α : Type) where
  | pure (a : α)
  | perform (r : Request) (k : Answer r → Program α)

namespace Program

/-- Go on with the value of a program. -/
def bind {α β : Type} : Program α → (α → Program β) → Program β
  | .pure a, f => f a
  | .perform r k, f => .perform r fun a => (k a).bind f

instance : Monad Program where
  pure := Program.pure
  bind := Program.bind

/-- The program that asks once. -/
def ask (r : Request) : Program (Answer r) := .perform r .pure

theorem pure_bind {α β : Type} (a : α) (f : α → Program β) : (Program.pure a).bind f = f a := rfl

theorem bind_pure {α : Type} (p : Program α) : p.bind .pure = p := by
  induction p with
  | pure a => rfl
  | perform r k ih => simp only [bind, ih]

theorem bind_assoc {α β γ : Type} (p : Program α) (f : α → Program β) (g : β → Program γ) :
    (p.bind f).bind g = p.bind fun a => (f a).bind g := by
  induction p with
  | pure a => rfl
  | perform r k ih => simp only [bind, ih]

/-- Have a handler answer everything that a program asks. -/
def handle {m : Type → Type} [Monad m] {α : Type} (answer : (r : Request) → m (Answer r)) :
    Program α → m α
  | .pure a => Pure.pure a
  | .perform r k => answer r >>= fun a => (k a).handle answer

theorem handle_bind {m : Type → Type} [Monad m] [LawfulMonad m] {α β : Type}
    (answer : (r : Request) → m (Answer r)) (p : Program α) (f : α → Program β) :
    (p.bind f).handle answer = p.handle answer >>= fun a => (f a).handle answer := by
  induction p with
  | pure a => simp only [bind, handle, LawfulMonad.pure_bind]
  | perform r k ih => simp only [bind, handle, ih, LawfulMonad.bind_assoc]

/-- A proper rest of a program: what is left of it after one answer or more. -/
inductive Below {α : Type} : Program α → Program α → Prop where
  | here (r : Request) (k : Answer r → Program α) (a : Answer r) : Below (k a) (.perform r k)
  | there {q : Program α} (r : Request) (k : Answer r → Program α) (a : Answer r) :
      Below q (k a) → Below q (.perform r k)

theorem below_wf {α : Type} : WellFounded (Below (α := α)) := by
  constructor
  intro p
  induction p with
  | pure a => exact ⟨_, fun q h => nomatch h⟩
  | perform r k ih =>
    refine ⟨_, fun q h => ?_⟩
    cases h with
    | here _ _ a => exact ih a
    | there _ _ a h => exact (ih a).inv h

end Program
end Run
end Walkthrough
