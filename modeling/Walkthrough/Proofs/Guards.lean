import Walkthrough.Proofs.Course
import Walkthrough.Run.Attempt

/-!
# Walkthrough.Proofs.Guards

What a program may ask after what it has asked. A `Rule` judges a request by the exchanges before
it, and a program adheres to a rule if, whatever it is answered, the rule allows everything that it
asks. What holds of its value and of all exchanges at the end is told along with that, so that parts
of a program can be judged one after the other.

* `adheres_bind`, `attempt_bind`, `attempt_tryCatch`: parts in sequence.
* `Program.Adheres.sound`: in every course the rule allows every request, and the value is as told.
-/

namespace Walkthrough
namespace Run

/-- What may be asked after exchanges. -/
abbrev Rule : Type := List Exchange → Request → Prop

/-- Whatever a program is answered after past exchanges, it keeps to a rule, and `post` holds of its
value and all exchanges up to there. -/
def Program.Adheres {α : Type} (rule : Rule) :
    Program α → List Exchange → (α → List Exchange → Prop) → Prop
  | .pure a, past, post => post a past
  | .perform r k, past, post => rule past r ∧ ∀ a, (k a).Adheres rule (past ++ [⟨r, a⟩]) post

/-- One of the two holds of what came of an attempt. -/
def outcomeIs {α : Type} (good : α → List Exchange → Prop) (bad : Failure → Prop) :
    Except Failure α → List Exchange → Prop
  | .ok a, now => good a now
  | .error f, _ => bad f

/-- An attempt keeps to a rule; `good` holds of its value, or `bad` of its failure. -/
def Attempt.Adheres {α : Type} (rule : Rule) (x : Attempt α) (past : List Exchange)
    (good : α → List Exchange → Prop) (bad : Failure → Prop) : Prop :=
  x.run.Adheres rule past (outcomeIs good bad)

section Programs

variable {α β : Type} {rule : Rule} {past : List Exchange}

theorem adheres_ask {r : Request} {post : Answer r → List Exchange → Prop} (hr : rule past r)
    (h : ∀ a, post a (past ++ [⟨r, a⟩])) : (Program.ask r).Adheres rule past post := ⟨hr, h⟩

theorem Program.Adheres.mono {p : Program α} {post post' : α → List Exchange → Prop}
    (hp : p.Adheres rule past post) (h : ∀ a now, post a now → post' a now) :
    p.Adheres rule past post' := by
  induction p generalizing past with
  | pure a => exact h a past hp
  | perform r k ih => exact ⟨hp.1, fun a => ih a (hp.2 a)⟩

/-- The second part is judged by what the first one leaves. -/
theorem adheres_bind {p : Program α} {f : α → Program β} {post : β → List Exchange → Prop}
    (h : p.Adheres rule past fun a now => (f a).Adheres rule now post) :
    (p >>= f).Adheres rule past post := by
  induction p generalizing past with
  | pure a => exact h
  | perform r k ih => exact ⟨h.1, fun a => ih a (h.2 a)⟩

theorem adheres_map {p : Program α} {f : α → β} {post : β → List Exchange → Prop}
    (h : p.Adheres rule past fun a now => post (f a) now) : (f <$> p).Adheres rule past post :=
  adheres_bind h

/-- What adherence says of a course. -/
theorem Program.Adheres.sound {p : Program α} {post : α → List Exchange → Prop}
    (hp : p.Adheres rule past post) {xs : List Exchange} {a : α} (h : Ends p xs a) :
    post a (past ++ xs) ∧ ∀ us x vs, xs = us ++ x :: vs → rule (past ++ us) x.request := by
  induction p generalizing past xs with
  | pure b =>
    obtain ⟨rfl, rfl⟩ := ends_pure.1 h
    refine ⟨(List.append_nil past).symm ▸ hp, fun us x vs heq => ?_⟩
    cases us <;> cases heq
  | perform r k ih =>
    obtain ⟨answer, ys, hrest, rfl⟩ := ends_perform.1 h
    obtain ⟨hpost, hrule⟩ := ih answer (hp.2 answer) hrest
    rw [List.append_assoc, List.singleton_append] at hpost
    refine ⟨hpost, fun us x vs heq => ?_⟩
    cases us with
    | nil =>
      obtain ⟨rfl, -⟩ := List.cons.inj heq
      rw [List.append_nil]
      exact hp.1
    | cons u us =>
      obtain ⟨rfl, htail⟩ := List.cons.inj heq
      have hnext := hrule us x vs htail
      rwa [List.append_assoc, List.singleton_append] at hnext

end Programs

section Attempts

variable {α β : Type} {rule : Rule} {past : List Exchange} {good : α → List Exchange → Prop}
  {bad : Failure → Prop}

theorem attempt_pure {a : α} (h : good a past) :
    Attempt.Adheres rule (pure a) past good bad := h

theorem attempt_throw {f : Failure} (h : bad f) :
    Attempt.Adheres rule (throw f : Attempt α) past good bad := h

theorem Attempt.Adheres.mono {x : Attempt α} {good' : α → List Exchange → Prop}
    (hx : Attempt.Adheres rule x past good bad) (h : ∀ a now, good a now → good' a now) :
    Attempt.Adheres rule x past good' bad :=
  Program.Adheres.mono hx fun e now he =>
    match e with
    | .ok a => h a now he
    | .error _ => he

/-- `m` holds in the middle. -/
theorem attempt_bind {x : Attempt β} {f : β → Attempt α} {m : β → List Exchange → Prop}
    (hx : Attempt.Adheres rule x past m bad)
    (hf : ∀ b now, m b now → Attempt.Adheres rule (f b) now good bad) :
    Attempt.Adheres rule (x >>= f) past good bad :=
  adheres_bind <| Program.Adheres.mono hx fun e now he =>
    match e with
    | .ok b => hf b now he
    | .error _ => he

theorem attempt_map {x : Attempt β} {f : β → α}
    (hx : Attempt.Adheres rule x past (fun b now => good (f b) now) bad) :
    Attempt.Adheres rule (f <$> x) past good bad :=
  adheres_bind <| Program.Adheres.mono hx fun e _ he =>
    match e with
    | .ok _ => he
    | .error _ => he

theorem attempt_tryCatch {x : Attempt α} {f : Failure → Attempt α} {bad' : Failure → Prop}
    (hx : Attempt.Adheres rule x past good bad')
    (hf : ∀ e now, bad' e → Attempt.Adheres rule (f e) now good bad) :
    Attempt.Adheres rule (tryCatch x f) past good bad :=
  adheres_bind <| Program.Adheres.mono hx fun e now he =>
    match e with
    | .ok _ => he
    | .error e => hf e now he

end Attempts

end Run
end Walkthrough
