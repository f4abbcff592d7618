import Walkthrough.Run.World

/-!
# Walkthrough.Proofs.Course

What programs go through, whatever they are answered. A course of a program is a list of exchanges
with the world that leads from the program to a rest of it; it ends when the rest is a value.

* `ends_bind`: a program in sequence goes through a course of each of its parts.
* `exists_ends`: every program has a course to an end.
* `Asks`: everything that a program may ask; `Course.asks` carries it over to courses.
* `ends_run`: a run in a world is one of the courses.
* `World.Leads`: the states through which a world leads; `ends_trace` and `leads_trace` say that the
  exchanges of a run are a course of its program and lead to its end.
-/

namespace Walkthrough
namespace Run

/-- A request and its answer. -/
structure Exchange where
  request : Request
  answer : Answer request

/-- The exchanges that lead from a program to a rest of it. -/
inductive Course {α : Type} : Program α → List Exchange → Program α → Prop where
  | refl (p : Program α) : Course p [] p
  | step {r : Request} {k : Answer r → Program α} {a : Answer r} {xs : List Exchange}
      {q : Program α} : Course (k a) xs q → Course (.perform r k) (⟨r, a⟩ :: xs) q

/-- The exchanges that lead from a program to its value. -/
def Ends {α : Type} (p : Program α) (xs : List Exchange) (a : α) : Prop := Course p xs (.pure a)

namespace Course

variable {α : Type} {p q s : Program α} {xs ys : List Exchange}

theorem trans (h : Course p xs q) (g : Course q ys s) : Course p (xs ++ ys) s := by
  induction h with
  | refl _ => exact g
  | step _ ih => exact .step (ih g)

theorem snoc {r : Request} {k : Answer r → Program α} (h : Course p xs (.perform r k))
    (a : Answer r) : Course p (xs ++ [⟨r, a⟩]) (k a) :=
  h.trans (.step (.refl _))

theorem nil_iff : Course p [] q ↔ p = q := by
  constructor
  · intro h
    cases h
    rfl
  · rintro rfl
    exact .refl _

/-- The exchanges determine what is left of a program. -/
theorem unique (h : Course p xs q) (g : Course p xs s) : q = s := by
  induction h with
  | refl _ => exact nil_iff.1 g
  | step _ ih =>
    cases g with
    | step g => exact ih g

end Course

/-! ## Courses to the end -/

section Ends

variable {α β : Type} {xs ys : List Exchange}

theorem ends_pure {a b : α} : Ends (pure a) xs b ↔ xs = [] ∧ b = a := by
  constructor
  · intro h
    cases h
    exact ⟨rfl, rfl⟩
  · rintro ⟨rfl, rfl⟩
    exact .refl _

/-- The exchanges determine the value. -/
theorem Ends.unique {p : Program α} {a b : α} (h : Ends p xs a) (g : Ends p xs b) : a = b :=
  Program.pure.inj (Course.unique h g)

theorem ends_perform {r : Request} {k : Answer r → Program α} {b : α} :
    Ends (.perform r k) xs b ↔ ∃ a ys, Ends (k a) ys b ∧ xs = ⟨r, a⟩ :: ys := by
  constructor
  · intro h
    cases h with
    | step h => exact ⟨_, _, h, rfl⟩
  · rintro ⟨a, ys, h, rfl⟩
    exact .step h

theorem ends_ask {r : Request} {a : Answer r} : Ends (Program.ask r) xs a ↔ xs = [⟨r, a⟩] := by
  rw [Program.ask, ends_perform]
  constructor
  · rintro ⟨b, ys, h, rfl⟩
    obtain ⟨rfl, rfl⟩ := ends_pure.1 h
    rfl
  · rintro rfl
    exact ⟨a, [], .refl _, rfl⟩

theorem ends_bind {p : Program α} {f : α → Program β} {b : β} :
    Ends (p >>= f) xs b ↔ ∃ a ys zs, Ends p ys a ∧ Ends (f a) zs b ∧ xs = ys ++ zs := by
  induction p generalizing xs with
  | pure a =>
    constructor
    · intro h
      exact ⟨a, [], xs, .refl _, h, rfl⟩
    · rintro ⟨a', ys, zs, h, g, rfl⟩
      obtain ⟨rfl, rfl⟩ := ends_pure.1 h
      exact g
  | perform r k ih =>
    constructor
    · intro h
      obtain ⟨c, _, hk, rfl⟩ := ends_perform.1 h
      obtain ⟨a, ys, zs, hp, hf, rfl⟩ := (ih c).1 hk
      exact ⟨a, ⟨r, c⟩ :: ys, zs, ends_perform.2 ⟨c, ys, hp, rfl⟩, hf, rfl⟩
    · rintro ⟨a, _, zs, h, hf, rfl⟩
      obtain ⟨c, ys, hp, rfl⟩ := ends_perform.1 h
      exact ends_perform.2 ⟨c, ys ++ zs, (ih c).2 ⟨a, ys, zs, hp, hf, rfl⟩, rfl⟩

/-- The first request of a sequence that begins with one. -/
theorem ends_ask_bind {r : Request} {f : Answer r → Program β} {b : β} :
    Ends (Program.ask r >>= f) xs b ↔ ∃ a ys, Ends (f a) ys b ∧ xs = ⟨r, a⟩ :: ys := by
  rw [ends_bind]
  constructor
  · rintro ⟨a, _, zs, h, g, rfl⟩
    rw [ends_ask.1 h]
    exact ⟨a, zs, g, rfl⟩
  · rintro ⟨a, ys, g, rfl⟩
    exact ⟨a, [⟨r, a⟩], ys, ends_ask.2 rfl, g, rfl⟩

theorem ends_map {p : Program α} {f : α → β} {b : β} :
    Ends (f <$> p) xs b ↔ ∃ a, Ends p xs a ∧ b = f a := by
  have h : f <$> p = p >>= fun a => pure (f a) := rfl
  rw [h, ends_bind]
  constructor
  · rintro ⟨a, ys, zs, h, g, rfl⟩
    obtain ⟨rfl, rfl⟩ := ends_pure.1 g
    exact ⟨a, by simpa using h, rfl⟩
  · rintro ⟨a, h, rfl⟩
    exact ⟨a, xs, [], h, ends_pure.2 ⟨rfl, rfl⟩, by simp⟩

/-- An answer that may be given to a request. -/
def Answer.any : (r : Request) → Answer r
  | .token _ => true
  | .now => (⟨default, 0⟩ : Moment)
  | .permit => ()
  | .openSession => none
  | .call _ _ _ => (.cancelled, 0)
  | .shielded _ _ _ => none
  | .rest _ => none
  | .store _ _ => none

/-- Every program has a course to an end. -/
theorem exists_ends (p : Program α) : ∃ xs a, Ends p xs a := by
  induction p with
  | pure a => exact ⟨[], a, .refl _⟩
  | perform r k ih =>
    obtain ⟨xs, a, h⟩ := ih (Answer.any r)
    exact ⟨_, a, .step h⟩

end Ends

/-! ## What a program may ask -/

/-- Every request of a program, whatever it is answered, has a property. -/
def Program.Asks {α : Type} (P : Request → Prop) : Program α → Prop
  | .pure _ => True
  | .perform r k => P r ∧ ∀ a, (k a).Asks P

section Asks

variable {α β : Type} {P Q : Request → Prop}

theorem asks_pure (a : α) : (pure a : Program α).Asks P := trivial

theorem asks_ask {r : Request} (h : P r) : (Program.ask r).Asks P := ⟨h, fun _ => trivial⟩

theorem asks_bind {p : Program α} {f : α → Program β} (hp : p.Asks P) (hf : ∀ a, (f a).Asks P) :
    (p >>= f).Asks P := by
  induction p with
  | pure a => exact hf a
  | perform r k ih => exact ⟨hp.1, fun a => ih a (hp.2 a)⟩

theorem asks_map {p : Program α} {f : α → β} (hp : p.Asks P) : (f <$> p).Asks P :=
  asks_bind hp fun _ => trivial

theorem asks_ite {c : Prop} [Decidable c] {p q : Program α} (hp : p.Asks P) (hq : q.Asks P) :
    (if c then p else q).Asks P := by
  split
  · exact hp
  · exact hq

theorem Program.Asks.mono {p : Program α} (hp : p.Asks P) (h : ∀ r, P r → Q r) : p.Asks Q := by
  induction p with
  | pure a => trivial
  | perform r k ih => exact ⟨h r hp.1, fun a => ih a (hp.2 a)⟩

theorem Course.asks {p q : Program α} {xs : List Exchange} (h : Course p xs q) (hp : p.Asks P) :
    ∀ x ∈ xs, P x.request := by
  induction h with
  | refl _ => exact fun x hx => nomatch hx
  | step _ ih =>
    intro x hx
    rcases List.mem_cons.1 hx with rfl | hx
    · exact hp.1
    · exact ih (hp.2 _) x hx

end Asks

/-! ## Runs are courses -/

/-- A run in a world goes through a course, whatever the world and the state. -/
theorem ends_run {σ α : Type} (w : World σ) (p : Program α) (st : State σ) :
    ∃ xs, Ends p xs (p.run w st).1 := by
  induction p generalizing st with
  | pure a => exact ⟨[], .refl _⟩
  | perform r k ih =>
    obtain ⟨xs, h⟩ := ih (respond w st r).1 (respond w st r).2
    exact ⟨_, .step h⟩

/-- A world leads from a state to another when it answers requests one after the other. -/
inductive World.Leads {σ : Type} (w : World σ) : State σ → List Exchange → State σ → Prop where
  | nil (st : State σ) : w.Leads st [] st
  | cons {st st' : State σ} {xs : List Exchange} (r : Request) :
      w.Leads (respond w st r).2 xs st' → w.Leads st (⟨r, (respond w st r).1⟩ :: xs) st'

section Leads

variable {σ α : Type} {w : World σ} {st st' : State σ} {xs ys : List Exchange}

theorem leads_nil : w.Leads st [] st' ↔ st' = st := by
  constructor
  · intro h
    cases h
    rfl
  · rintro rfl
    exact .nil _

theorem leads_cons {r : Request} {a : Answer r} :
    w.Leads st (⟨r, a⟩ :: xs) st' ↔
      (respond w st r).1 = a ∧ w.Leads (respond w st r).2 xs st' := by
  constructor
  · intro h
    cases h with
    | cons _ h => exact ⟨rfl, h⟩
  · rintro ⟨rfl, h⟩
    exact .cons r h

theorem leads_append :
    w.Leads st (xs ++ ys) st' ↔ ∃ between, w.Leads st xs between ∧ w.Leads between ys st' := by
  induction xs generalizing st with
  | nil => simp [leads_nil]
  | cons x xs ih =>
    obtain ⟨r, a⟩ := x
    simp only [List.cons_append, leads_cons, ih]
    constructor
    · rintro ⟨ha, between, hxs, hys⟩
      exact ⟨between, ⟨ha, hxs⟩, hys⟩
    · rintro ⟨between, ⟨ha, hxs⟩, hys⟩
      exact ⟨ha, between, hxs, hys⟩

/-- The exchanges of a run. -/
def Program.trace (w : World σ) : Program α → State σ → List Exchange
  | .pure _, _ => []
  | .perform r k, st =>
    ⟨r, (respond w st r).1⟩ :: (k (respond w st r).1).trace w (respond w st r).2

theorem ends_trace (w : World σ) (p : Program α) (st : State σ) :
    Ends p (p.trace w st) (p.run w st).1 := by
  induction p generalizing st with
  | pure a => exact .refl _
  | perform r k ih => exact .step (ih _ _)

theorem leads_trace (w : World σ) (p : Program α) (st : State σ) :
    w.Leads st (p.trace w st) (p.run w st).2 := by
  induction p generalizing st with
  | pure a => exact .nil st
  | perform r k ih => exact .cons r (ih _ _)

/-- Whether the run is cancelled is answered as things stand. -/
theorem cancelled_of_leads_token {next : Undertaking} {cancelled : Bool}
    (h : w.Leads st (xs ++ [⟨.token next, cancelled⟩]) st') : st'.cancelled = cancelled := by
  obtain ⟨between, -, hlast⟩ := leads_append.1 h
  obtain ⟨ha, hnil⟩ := leads_cons.1 hlast
  rw [← ha, leads_nil.1 hnil]
  unfold respond begin serve
  cases hc : (between.heed w (.token next)).cancelled with
  | true => simp [hc]
  | false => simp [hc, State.note]

end Leads

end Run
end Walkthrough
