import Walkthrough.Proofs.Requests

/-!
# Walkthrough.Proofs.Laps

How long programs take. A timing says how long a request may take until it is answered so; a
program takes the sum of what its requests take.

* `Takes` is the timing of answers that come when they are due, `Late` the one of a run that is
  cancelled.
* `lasts_bind`: programs in sequence take the sum of what they take.
* `Program.Within`: a bound for what a program takes, with one lemma for every way to put programs
  together.
* `Lingers`: what a program takes once the run is cancelled somewhere in its course; `lingers_bind`
  says which of two programs in sequence that hits.
-/

namespace Walkthrough
namespace Run

open Browser

abbrev Timing : Type := (r : Request) → Answer r → Nat → Prop

/-- An answer comes when it is due, or when the run is cancelled. The store takes no time. -/
def Takes : Timing
  | .token _, _, t => t = 0
  | .now, _, t => t = 0
  | .permit, _, _ => True
  | .openSession, _, _ => True
  | .call _ _ limit, a, t => t = a.2 ∧ t ≤ limit.ceilMillis
  | .shielded _ _ limit, _, t => t ≤ limit.ceilMillis
  | .rest span, (a : Option Nat), t =>
    t ≤ span.ceilMillis ∧ ∀ late, a = some late → late = 0 ∧ t = span.ceilMillis
  | .store _ _, _, t => t = 0

/-- Once the run is cancelled, nothing is waited for but what cannot be cut short. -/
def Late : Timing
  | .token _, (cancelled : Bool), t => cancelled = true ∧ t = 0
  | .now, _, t => t = 0
  | .permit, _, _ => True
  | .openSession, (a : Option (Except Browser.Fault Nat)), t => a = none ∧ t = 0
  | .call _ _ _, a, t => a = (.cancelled, 0) ∧ t = 0
  | .shielded _ _ limit, _, t => t ≤ limit.ceilMillis
  | .rest _, (a : Option Nat), t => a = none ∧ t = 0
  | .store _ _, _, t => t = 0

theorem Late.takes {r : Request} {a : Answer r} {t : Nat} (h : Late r a t) : Takes r a t := by
  cases r with
  | token next => exact h.2
  | call s c limit =>
    obtain ⟨rfl, rfl⟩ := h
    exact ⟨rfl, Nat.zero_le _⟩
  | rest span =>
    obtain ⟨rfl, rfl⟩ := h
    exact ⟨Nat.zero_le _, nofun⟩
  | openSession => trivial
  | _ => exact h

/-- The time that it takes from a program to a rest of it. -/
inductive Laps (T : Timing) {α : Type} : Program α → Nat → Program α → Prop where
  | refl (p : Program α) : Laps T p 0 p
  | step {r : Request} {k : Answer r → Program α} {a : Answer r} {t u : Nat} {q : Program α} :
      T r a t → Laps T (k a) u q → Laps T (.perform r k) (t + u) q

/-- The time that it takes from a program to its value. -/
def Lasts (T : Timing) {α : Type} (p : Program α) (t : Nat) (a : α) : Prop := Laps T p t (.pure a)

section Laps

variable {T U : Timing} {α β : Type} {t u : Nat}

theorem Laps.trans {p q s : Program α} (h : Laps T p t q) (g : Laps T q u s) :
    Laps T p (t + u) s := by
  induction h with
  | refl _ =>
    rw [Nat.zero_add]
    exact g
  | step ha _ ih =>
    rw [Nat.add_assoc]
    exact .step ha (ih g)

theorem Laps.mono {p q : Program α} (h : Laps T p t q)
    (hT : ∀ (r : Request) (a : Answer r) (t : Nat), T r a t → U r a t) : Laps U p t q := by
  induction h with
  | refl p => exact .refl p
  | step ha _ ih => exact .step (hT _ _ _ ha) ih

theorem Laps.asks {P : Request → Prop} {p q : Program α} (h : Laps T p t q) (hp : p.Asks P) :
    q.Asks P := by
  induction h with
  | refl _ => exact hp
  | step _ _ ih => exact ih (hp.2 _)

/-- What lasts goes through a course, however long it takes. -/
theorem Laps.course {p q : Program α} (h : Laps T p t q) : ∃ xs, Course p xs q := by
  induction h with
  | refl p => exact ⟨[], .refl p⟩
  | step _ _ ih =>
    obtain ⟨xs, h⟩ := ih
    exact ⟨_, .step h⟩

theorem Lasts.ends {p : Program α} {a : α} (h : Lasts T p t a) : ∃ xs, Ends p xs a := h.course

/-- A course whose answers all come at once takes no time. -/
theorem Course.laps {p q : Program α} {xs : List Exchange} (h : Course p xs q)
    (hxs : ∀ x ∈ xs, T x.request x.answer 0) : Laps T p 0 q := by
  induction h with
  | refl p => exact .refl p
  | step _ ih =>
    obtain ⟨hx, hrest⟩ := List.forall_mem_cons.1 hxs
    exact .step hx (ih hrest)

theorem lasts_pure {a b : α} : Lasts T (pure a) t b ↔ t = 0 ∧ b = a := by
  constructor
  · intro h
    cases h
    exact ⟨rfl, rfl⟩
  · rintro ⟨rfl, rfl⟩
    exact .refl _

theorem lasts_perform {r : Request} {k : Answer r → Program α} {b : α} :
    Lasts T (.perform r k) t b ↔ ∃ a u v, T r a u ∧ Lasts T (k a) v b ∧ t = u + v := by
  constructor
  · intro h
    cases h with
    | step ha h => exact ⟨_, _, _, ha, h, rfl⟩
  · rintro ⟨a, u, v, ha, h, rfl⟩
    exact .step ha h

theorem lasts_bind {p : Program α} {f : α → Program β} {b : β} :
    Lasts T (p >>= f) t b ↔ ∃ a u v, Lasts T p u a ∧ Lasts T (f a) v b ∧ t = u + v := by
  induction p generalizing t with
  | pure a =>
    constructor
    · intro h
      exact ⟨a, 0, t, .refl _, h, (Nat.zero_add t).symm⟩
    · rintro ⟨a', u, v, h, g, rfl⟩
      obtain ⟨rfl, rfl⟩ := lasts_pure.1 h
      rw [Nat.zero_add]
      exact g
  | perform r k ih =>
    constructor
    · intro h
      obtain ⟨c, u, _, hc, hk, rfl⟩ := lasts_perform.1 h
      obtain ⟨a, v, w, hp, hf, rfl⟩ := (ih c).1 hk
      exact ⟨a, u + v, w, .step hc hp, hf, (Nat.add_assoc u v w).symm⟩
    · rintro ⟨a, _, w, h, hf, rfl⟩
      obtain ⟨c, u, v, hc, hp, rfl⟩ := lasts_perform.1 h
      rw [Nat.add_assoc]
      exact .step hc ((ih c).2 ⟨a, v, w, hp, hf, rfl⟩)

theorem lasts_ask_bind {r : Request} {f : Answer r → Program β} {b : β} :
    Lasts T (Program.ask r >>= f) t b ↔ ∃ a u v, T r a u ∧ Lasts T (f a) v b ∧ t = u + v :=
  lasts_perform

/-- A rest of programs in sequence is a rest of the first or of the second. -/
theorem laps_bind {p : Program α} {f : α → Program β} {q : Program β}
    (h : Laps T (p >>= f) t q) :
    (∃ p', Laps T p t p' ∧ q = p' >>= f) ∨ ∃ a u v, Lasts T p u a ∧ Laps T (f a) v q := by
  induction p generalizing t with
  | pure a => exact .inr ⟨a, 0, t, .refl _, h⟩
  | perform r k ih =>
    cases h with
    | refl _ => exact .inl ⟨_, .refl _, rfl⟩
    | step ha h =>
      rcases ih _ h with ⟨p', hp, rfl⟩ | ⟨a, u, v, hp, hf⟩
      · exact .inl ⟨p', .step ha hp, rfl⟩
      · exact .inr ⟨a, _, v, .step ha hp, hf⟩

end Laps

/-! ## Bounds -/

/-- A program takes no longer, if every answer comes when it is due. -/
def Program.Within {α : Type} (p : Program α) (n : Nat) : Prop := ∀ t a, Lasts Takes p t a → t ≤ n

section Within

variable {α β : Type} {p : Program α} {m n : Nat}

theorem Program.Within.mono (h : p.Within m) (hle : m ≤ n) : p.Within n :=
  fun t a ht => Nat.le_trans (h t a ht) hle

theorem within_pure (a : α) : (pure a : Program α).Within 0 := by
  intro t b h
  exact Nat.le_of_eq (lasts_pure.1 h).1

theorem within_ask {r : Request} (h : ∀ a t, Takes r a t → t ≤ n) : (Program.ask r).Within n := by
  intro t b ht
  obtain ⟨a, u, v, ha, hv, rfl⟩ := lasts_perform.1 ht
  obtain ⟨rfl, -⟩ := lasts_pure.1 hv
  exact h a u ha

theorem within_bind {f : α → Program β} (hp : p.Within m) (hf : ∀ a, (f a).Within n) :
    (p >>= f).Within (m + n) := by
  intro t b h
  obtain ⟨a, u, v, hu, hv, rfl⟩ := lasts_bind.1 h
  exact Nat.add_le_add (hp u a hu) (hf a v b hv)

/-- What follows takes no time. -/
theorem within_bind_zero {f : α → Program β} (hp : p.Within n) (hf : ∀ a, (f a).Within 0) :
    (p >>= f).Within n :=
  within_bind hp hf

/-- What goes before takes no time. -/
theorem within_zero_bind {f : α → Program β} (hp : p.Within 0) (hf : ∀ a, (f a).Within n) :
    (p >>= f).Within n :=
  (within_bind hp hf).mono (Nat.le_of_eq (Nat.zero_add n))

theorem within_map {f : α → β} (hp : p.Within n) : (f <$> p).Within n :=
  within_bind_zero hp fun a => within_pure (f a)

theorem within_ite {c : Prop} [Decidable c] {q : Program α} (hp : p.Within n) (hq : q.Within n) :
    (if c then p else q).Within n := by
  split
  · exact hp
  · exact hq

theorem within_now : (Program.ask .now).Within 0 := within_ask fun _ _ h => Nat.le_of_eq h

theorem within_token (next : Undertaking) : (Program.ask (.token next)).Within 0 :=
  within_ask fun _ _ h => Nat.le_of_eq h

theorem within_shielded (session : Nat) (c : Call) (limit : Duration) :
    (Program.ask (.shielded session c limit)).Within limit.ceilMillis :=
  within_ask fun _ _ h => h

theorem within_store (key : Capture.Key) (bytes : ByteArray) :
    (Program.ask (.store key bytes)).Within 0 :=
  within_ask fun _ _ h => Nat.le_of_eq h

end Within

section Attempts

variable {α β : Type} {m n : Nat}

theorem within_attempt_bind {x : Attempt α} {f : α → Attempt β} (hx : x.run.Within m)
    (hf : ∀ a, (f a).run.Within n) : (x >>= f).run.Within (m + n) := by
  refine within_bind hx ?_
  intro e
  cases e with
  | ok a => exact hf a
  | error f => exact (within_pure _).mono (Nat.zero_le n)

theorem within_attempt_bind_zero {x : Attempt α} {f : α → Attempt β} (hx : x.run.Within n)
    (hf : ∀ a, (f a).run.Within 0) : (x >>= f).run.Within n :=
  within_attempt_bind hx hf

theorem within_attempt_pure (a : α) : (pure a : Attempt α).run.Within 0 := within_pure _

theorem within_attempt_map {x : Attempt α} {f : α → β} (hx : x.run.Within n) :
    (f <$> x).run.Within n := by
  refine within_bind_zero hx ?_
  intro e
  cases e with
  | ok a => exact within_pure _
  | error f => exact within_pure _

theorem within_tryCatch {x : Attempt α} {f : Failure → Attempt α} (hx : x.run.Within n)
    (hf : ∀ e, (f e).run.Within 0) : (tryCatch x f).run.Within n := by
  refine within_bind_zero hx ?_
  intro e
  cases e with
  | ok a => exact within_pure _
  | error f' => exact hf f'

theorem within_expect (holds : Bool) (finding : Failure.Finding) :
    (Session.expect holds finding).run.Within 0 := by
  unfold Session.expect
  split
  · exact within_pure _
  · exact within_pure _

end Attempts

/-! ## Programs that are cut off -/

/-- The run is cancelled somewhere in the course of a program; that is how long it takes from then
on. -/
def Lingers {α : Type} (p : Program α) (t : Nat) (a : α) : Prop :=
  ∃ u q, Laps Takes p u q ∧ Lasts Late q t a

section Lingers

variable {α β : Type} {p : Program α} {t : Nat}

theorem Lasts.lingers {a : α} (h : Lasts Late p t a) : Lingers p t a := ⟨0, p, .refl p, h⟩

/-- From then on it does not take longer than all of it. -/
theorem Program.Within.lingers {n : Nat} (hp : p.Within n) {a : α} (h : Lingers p t a) : t ≤ n := by
  obtain ⟨u, q, hu, ht⟩ := h
  exact Nat.le_of_add_left_le (hp _ a (hu.trans (ht.mono fun _ _ _ => Late.takes)))

theorem Program.Within.late {n : Nat} (hp : p.Within n) {a : α} (h : Lasts Late p t a) : t ≤ n :=
  hp.lingers h.lingers

/-- Of programs in sequence the first is cut off, and the second begins late, or the second is cut
off. -/
theorem lingers_bind {f : α → Program β} {b : β} (h : Lingers (p >>= f) t b) :
    (∃ a u v, Lingers p u a ∧ Lasts Late (f a) v b ∧ t = u + v) ∨
      ∃ a u, Lasts Takes p u a ∧ Lingers (f a) t b := by
  obtain ⟨u, q, hu, ht⟩ := h
  rcases laps_bind hu with ⟨p', hp, rfl⟩ | ⟨a, v, w, hp, hf⟩
  · obtain ⟨a, v, w, hv, hw, rfl⟩ := lasts_bind.1 ht
    exact .inl ⟨a, v, w, ⟨u, p', hp, hv⟩, hw, rfl⟩
  · exact .inr ⟨a, v, hp, w, q, hf, ht⟩

/-- Attempts of steps take no time once the run is cancelled. -/
theorem eq_zero_of_late {session : Nat} (hp : p.Asks (Request.IsAttempt session)) {a : α}
    (h : Lasts Late p t a) : t = 0 := by
  induction p generalizing t with
  | pure b => exact (lasts_pure.1 h).1
  | perform r k ih =>
    obtain ⟨c, u, v, hc, hv, rfl⟩ := lasts_perform.1 h
    have hu : u = 0 := by
      cases r with
      | call s d limit => exact hc.2
      | rest span => exact hc.2
      | _ => exact hp.1.elim
    rw [hu, ih c (hp.2 c) hv]

theorem eq_zero_of_lingers {session : Nat} (hp : p.Asks (Request.IsAttempt session)) {a : α}
    (h : Lingers p t a) : t = 0 := by
  obtain ⟨u, q, hu, ht⟩ := h
  exact eq_zero_of_late (hu.asks hp) ht

end Lingers

end Run
end Walkthrough
