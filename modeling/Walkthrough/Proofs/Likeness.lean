import Walkthrough.Proofs.Requests

/-!
# Walkthrough.Proofs.Likeness

Programs that do the same, as far as an observer can tell. The observer does not see the clock, the
numbers of sessions and where something is stored; one that is blind to captures does not see
pictures and recordings either.

* `Program.Alike`: two programs ask alike for what is seen, and go on alike for like answers.
  `alike_bind` puts such programs together.
* `Driver`: what every session answers, from the calls that were made on it before.
* `Exchange.Obeys`: an answer is the driver's, and the run is not cancelled.
* `Program.Alike.agree`: alike programs that a driver answers come to like values, and make the same
  calls.
-/

namespace Walkthrough

/-- A capture without its moment. -/
def Capture.Key.undated (k : Capture.Key) : Capture.Key := { k with capturedAt := default }

/-- Does an observer see the call? -/
def Browser.Call.isSeen (blind : Bool) (c : Browser.Call) : Bool := !(blind && c.isCapture)

theorem Browser.Call.isSeen_of_page {c : Browser.Call} (h : c.isCapture = false) (blind : Bool) :
    c.isSeen blind = true := by
  rw [isSeen, h, Bool.and_false, Bool.not_false]

namespace Run

open Browser

/-! ## What is seen -/

/-- What an observer does not see. -/
def Request.Escapes (blind : Bool) : Request → Prop
  | .now => True
  | .call _ c _ => c.isSeen blind = false
  | .shielded _ c _ => c.isSeen blind = false
  | .store _ _ => blind = true
  | _ => False

/-- Requests that an observer cannot tell apart. -/
inductive Request.Like : Request → Request → Prop where
  | token (next : Undertaking) : Like (.token next) (.token next)
  | permit : Like .permit .permit
  | openSession : Like .openSession .openSession
  | call (s s' : Nat) (c : Call) (limit : Duration) : Like (.call s c limit) (.call s' c limit)
  | shielded (s s' : Nat) (c : Call) (limit : Duration) :
      Like (.shielded s c limit) (.shielded s' c limit)
  | rest (span : Duration) : Like (.rest span) (.rest span)
  | store {key key' : Capture.Key} (bytes bytes' : ByteArray) :
      key.undated = key'.undated → Like (.store key bytes) (.store key' bytes')

/-- Exchanges that an observer cannot tell apart. -/
inductive Exchange.Like : Exchange → Exchange → Prop where
  | token (next : Undertaking) (cancelled : Bool) :
      Like ⟨.token next, cancelled⟩ ⟨.token next, cancelled⟩
  | permit (a a' : Answer .permit) : Like ⟨.permit, a⟩ ⟨.permit, a'⟩
  | unopened : Like ⟨.openSession, none⟩ ⟨.openSession, none⟩
  | refused (f : Browser.Fault) :
      Like ⟨.openSession, some (.error f)⟩ ⟨.openSession, some (.error f)⟩
  | opened (s s' : Nat) : Like ⟨.openSession, some (.ok s)⟩ ⟨.openSession, some (.ok s')⟩
  | call (s s' : Nat) (c : Call) (limit : Duration) (a : Ending c.Result × Nat) :
      Like ⟨.call s c limit, a⟩ ⟨.call s' c limit, a⟩
  | shielded (s s' : Nat) (c : Call) (limit : Duration)
      (a : Option (Except Browser.Fault c.Result)) :
      Like ⟨.shielded s c limit, a⟩ ⟨.shielded s' c limit, a⟩
  | rest (span : Duration) (a : Option Nat) : Like ⟨.rest span, a⟩ ⟨.rest span, a⟩
  | store {key key' : Capture.Key} (bytes bytes' : ByteArray) {path path' : Option String} :
      key.undated = key'.undated → path.isSome = path'.isSome →
      Like ⟨.store key bytes, path⟩ ⟨.store key' bytes', path'⟩

/-- The call that an observer sees. -/
def Exchange.seen? (blind : Bool) (x : Exchange) : Option Call :=
  (x.request.call?.map Prod.snd).filter (Call.isSeen blind)

/-- The calls that an observer sees, in order. -/
def seen (blind : Bool) (xs : List Exchange) : List Call := xs.filterMap (Exchange.seen? blind)

section Seen

variable {blind : Bool} {x y : Exchange} {xs ys : List Exchange}

@[simp] theorem seen_nil : seen blind [] = [] := rfl

theorem seen_append : seen blind (xs ++ ys) = seen blind xs ++ seen blind ys :=
  List.filterMap_append

theorem seen_cons : seen blind (x :: xs) = (x.seen? blind).toList ++ seen blind xs := by
  unfold seen
  rw [List.filterMap_cons]
  cases x.seen? blind <;> rfl

theorem Exchange.Like.seen?_eq (h : x.Like y) (blind : Bool) :
    x.seen? blind = y.seen? blind := by
  cases h <;> rfl

theorem Request.Escapes.seen?_eq (h : x.request.Escapes blind) : x.seen? blind = none := by
  obtain ⟨r, a⟩ := x
  cases r with
  | call s c limit =>
    change c.isSeen blind = false at h
    simp [Exchange.seen?, Request.call?, h]
  | shielded s c limit =>
    change c.isSeen blind = false at h
    simp [Exchange.seen?, Request.call?, h]
  | _ => rfl

/-- Captures are not seen by an observer who is blind to them. -/
theorem Request.IsCapture.escapes {session : Nat} {r : Request} (h : r.IsCapture session) :
    r.Escapes true := by
  cases r with
  | shielded s c limit =>
    change Call.isSeen true c = false
    rw [Call.isSeen, h.2]
    rfl
  | now => trivial
  | store key bytes => rfl
  | _ => exact h.elim

end Seen

/-! ## Alike programs -/

/-- Two programs do the same as far as an observer can tell, and come to related values. -/
inductive Program.Alike (blind : Bool) {α β : Type} (R : α → β → Prop) :
    Program α → Program β → Prop where
  | pure {a : α} {b : β} : R a b → Alike blind R (.pure a) (.pure b)
  /-- What is not seen may be asked on one side, and the answer does not matter. -/
  | left {r : Request} {k : Answer r → Program α} {q : Program β} :
      r.Escapes blind → (∀ a, Alike blind R (k a) q) → Alike blind R (.perform r k) q
  | right {r : Request} {p : Program α} {k : Answer r → Program β} :
      r.Escapes blind → (∀ a, Alike blind R p (k a)) → Alike blind R p (.perform r k)
  | both {r r' : Request} {k : Answer r → Program α} {k' : Answer r' → Program β} :
      r.Like r' → ¬ r.Escapes blind → ¬ r'.Escapes blind →
      (∀ a a', Exchange.Like ⟨r, a⟩ ⟨r', a'⟩ → Alike blind R (k a) (k' a')) →
      Alike blind R (.perform r k) (.perform r' k')

section Alike

variable {blind : Bool} {α β γ δ : Type} {R : α → β → Prop} {S : γ → δ → Prop} {p : Program α}
  {q : Program β}

theorem alike_pure {a : α} {b : β} (h : R a b) :
    Program.Alike blind R (Pure.pure a : Program α) (Pure.pure b : Program β) :=
  .pure h

theorem alike_bind {f : α → Program γ} {g : β → Program δ} (h : p.Alike blind R q)
    (hfg : ∀ a b, R a b → (f a).Alike blind S (g b)) : (p >>= f).Alike blind S (q >>= g) := by
  induction h with
  | pure hab => exact hfg _ _ hab
  | left hr _ ih => exact .left hr ih
  | right hr _ ih => exact .right hr ih
  | both hlike hr hr' _ ih => exact .both hlike hr hr' ih

theorem Program.Alike.mono {R' : α → β → Prop} (h : p.Alike blind R q)
    (hR : ∀ a b, R a b → R' a b) : p.Alike blind R' q := by
  induction h with
  | pure hab => exact .pure (hR _ _ hab)
  | left hr _ ih => exact .left hr ih
  | right hr _ ih => exact .right hr ih
  | both hlike hr hr' _ ih => exact .both hlike hr hr' ih

theorem alike_map {f : α → γ} {g : β → δ} (h : p.Alike blind R q)
    (hfg : ∀ a b, R a b → S (f a) (g b)) : (f <$> p).Alike blind S (g <$> q) :=
  alike_bind h fun a b hab => .pure (hfg a b hab)

theorem alike_ite {c c' : Prop} [Decidable c] [Decidable c'] {p' : Program α} {q' : Program β}
    (hc : c ↔ c') (h : p.Alike blind R q) (h' : p'.Alike blind R q') :
    (if c then p else p').Alike blind R (if c' then q else q') := by
  by_cases hp : c
  · rw [if_pos hp, if_pos (hc.1 hp)]
    exact h
  · rw [if_neg hp, if_neg (mt hc.2 hp)]
    exact h'

/-- The clock is looked at on both sides. -/
theorem alike_now {f : Moment → Program α} {g : Moment → Program β}
    (h : ∀ m m', (f m).Alike blind R (g m')) :
    (Program.ask .now >>= f).Alike blind R (Program.ask .now >>= g) :=
  .left trivial fun m => .right trivial fun m' => h m m'

/-- Something is asked alike on both sides. -/
theorem alike_ask {r r' : Request} {f : Answer r → Program α} {g : Answer r' → Program β}
    (hlike : r.Like r') (hr : ¬ r.Escapes blind) (hr' : ¬ r'.Escapes blind)
    (h : ∀ a a', Exchange.Like ⟨r, a⟩ ⟨r', a'⟩ → (f a).Alike blind R (g a')) :
    (Program.ask r >>= f).Alike blind R (Program.ask r' >>= g) :=
  .both hlike hr hr' h

theorem alike_token (next : Undertaking) {f : Bool → Program α} {g : Bool → Program β}
    (h : ∀ cancelled, (f cancelled).Alike blind R (g cancelled)) :
    (Program.ask (.token next) >>= f).Alike blind R (Program.ask (.token next) >>= g) := by
  refine alike_ask (.token next) id id fun a a' ha => ?_
  cases ha
  exact h _

theorem alike_rest (span : Duration) {f : Option Nat → Program α} {g : Option Nat → Program β}
    (h : ∀ late, (f late).Alike blind R (g late)) :
    (Program.ask (.rest span) >>= f).Alike blind R (Program.ask (.rest span) >>= g) := by
  refine alike_ask (.rest span) id id fun a a' ha => ?_
  cases ha
  exact h _

theorem alike_call (i j : Nat) {c : Call} (limit : Duration) (hc : c.isSeen blind = true)
    {f : Ending c.Result × Nat → Program α} {g : Ending c.Result × Nat → Program β}
    (h : ∀ a, (f a).Alike blind R (g a)) :
    (Program.ask (.call i c limit) >>= f).Alike blind R
      (Program.ask (.call j c limit) >>= g) := by
  have hloud : ¬ c.isSeen blind = false := fun h => by rw [hc] at h; cases h
  refine alike_ask (.call i j c limit) hloud hloud fun a a' ha => ?_
  cases ha
  exact h _

theorem alike_shielded (i j : Nat) {c : Call} (limit : Duration) (hc : c.isSeen blind = true)
    {f : Option (Except Browser.Fault c.Result) → Program α}
    {g : Option (Except Browser.Fault c.Result) → Program β}
    (h : ∀ a, (f a).Alike blind R (g a)) :
    (Program.ask (.shielded i c limit) >>= f).Alike blind R
      (Program.ask (.shielded j c limit) >>= g) := by
  have hloud : ¬ c.isSeen blind = false := fun h => by rw [hc] at h; cases h
  refine alike_ask (.shielded i j c limit) hloud hloud fun a a' ha => ?_
  cases ha
  exact h _

/-- Programs of which nothing is seen. -/
theorem alike_of_escapes (hp : p.Asks (Request.Escapes blind)) (hq : q.Asks (Request.Escapes blind))
    (hR : ∀ a b, R a b) : p.Alike blind R q := by
  induction p with
  | pure a =>
    induction q with
    | pure b => exact .pure (hR a b)
    | perform r k ih => exact .right hq.1 fun b => ih b (hq.2 b)
  | perform r k ih => exact .left hp.1 fun a => ih a (hp.2 a)

end Alike

/-! ## Drivers -/

/-- What every session answers: its opening, the result of a call and the milliseconds it takes, from
the calls that were made on the session before, and whether a capture is kept. -/
structure Driver where
  opens : Except Browser.Fault Unit
  answer : List Call → (c : Call) → Except Browser.Fault c.Result × Nat
  keeps : Capture.Key → Bool

namespace Driver

variable (D : Driver)

/-- How a call with a limit ends, and what it takes. -/
def ending (calls : List Call) (c : Call) (limit : Duration) : Ending c.Result × Nat :=
  (if (D.answer calls c).2 ≤ limit.ceilMillis then .answered (D.answer calls c).1 else .late,
    min (D.answer calls c).2 limit.ceilMillis)

/-- The result of a shielded call. -/
def result? (calls : List Call) (c : Call) (limit : Duration) :
    Option (Except Browser.Fault c.Result) :=
  if (D.answer calls c).2 ≤ limit.ceilMillis then some (D.answer calls c).1 else none

end Driver

/-- The answer is the driver's, after some calls; the run is not cancelled, and no rest is
exceeded. -/
inductive Exchange.Obeys (D : Driver) (calls : List Call) : Exchange → Prop where
  | token (next : Undertaking) : Obeys D calls ⟨.token next, false⟩
  | permit (a : Answer .permit) : Obeys D calls ⟨.permit, a⟩
  | refused {f : Browser.Fault} : D.opens = .error f →
      Obeys D calls ⟨.openSession, some (.error f)⟩
  | opened (s : Nat) : D.opens = .ok () → Obeys D calls ⟨.openSession, some (.ok s)⟩
  | call (s : Nat) (c : Call) (limit : Duration) :
      Obeys D calls ⟨.call s c limit, D.ending calls c limit⟩
  | shielded (s : Nat) (c : Call) (limit : Duration) :
      Obeys D calls ⟨.shielded s c limit, D.result? calls c limit⟩
  | rest (span : Duration) : Obeys D calls ⟨.rest span, some 0⟩
  | store {key : Capture.Key} (bytes : ByteArray) {path : Option String} :
      path.isSome = D.keeps key.undated → Obeys D calls ⟨.store key bytes, path⟩

/-- What is seen of a course obeys the driver, when some calls were made before. -/
def Obeys (blind : Bool) (D : Driver) : List Call → List Exchange → Prop
  | _, [] => True
  | calls, x :: xs => (x.request.Escapes blind ∨ x.Obeys D calls) ∧
      Obeys blind D (calls ++ (x.seen? blind).toList) xs

section Obeys

variable {blind : Bool} {D : Driver} {calls : List Call} {x y : Exchange} {xs ys : List Exchange}

theorem obeys_append :
    Obeys blind D calls (xs ++ ys) ↔
      Obeys blind D calls xs ∧ Obeys blind D (calls ++ seen blind xs) ys := by
  induction xs generalizing calls with
  | nil => simp [Obeys]
  | cons x xs ih =>
    rw [List.cons_append, Obeys, Obeys, ih, seen_cons, List.append_assoc, and_assoc]

/-- A driver gives like answers to like requests. -/
theorem like_of_obeys (h : x.request.Like y.request) (hx : x.Obeys D calls)
    (hy : y.Obeys D calls) : x.Like y := by
  obtain ⟨r, a⟩ := x
  obtain ⟨r', a'⟩ := y
  cases h with
  | token next =>
    cases hx
    cases hy
    exact .token next false
  | permit => exact .permit a a'
  | openSession =>
    cases hx with
    | refused hf =>
      cases hy with
      | refused hf' =>
        obtain rfl := Except.error.inj (hf.symm.trans hf')
        exact .refused _
      | opened s' hs' => rw [hf] at hs'; cases hs'
    | opened s hs =>
      cases hy with
      | refused hf' => rw [hs] at hf'; cases hf'
      | opened s' hs' => exact .opened s s'
  | call s s' c limit =>
    cases hx
    cases hy
    exact .call s s' c limit _
  | shielded s s' c limit =>
    cases hx
    cases hy
    exact .shielded s s' c limit _
  | rest span =>
    cases hx
    cases hy
    exact .rest span _
  | store bytes bytes' hkey =>
    cases hx with
    | store _ hpath =>
      cases hy with
      | store _ hpath' => exact .store bytes bytes' hkey (by rw [hpath, hpath', hkey])

/-- Alike programs that a driver answers come to related values, and make the same calls as far as
they are seen. -/
theorem Program.Alike.agree {α β : Type} {R : α → β → Prop} {p : Program α} {q : Program β} {a : α}
    {b : β} (h : p.Alike blind R q) (hp : Ends p xs a) (hq : Ends q ys b)
    (hxs : Obeys blind D calls xs) (hys : Obeys blind D calls ys) :
    R a b ∧ seen blind xs = seen blind ys := by
  induction h generalizing calls xs ys with
  | pure hab =>
    obtain ⟨rfl, rfl⟩ := ends_pure.1 hp
    obtain ⟨rfl, rfl⟩ := ends_pure.1 hq
    exact ⟨hab, rfl⟩
  | left hr _ ih =>
    obtain ⟨c, xs', hk, rfl⟩ := ends_perform.1 hp
    have hnone : Exchange.seen? blind ⟨_, c⟩ = none := Request.Escapes.seen?_eq hr
    have hxs' := hxs.2
    rw [hnone, Option.toList_none, List.append_nil] at hxs'
    rw [seen_cons, hnone]
    exact ih c hk hq hxs' hys
  | right hr _ ih =>
    obtain ⟨c, ys', hk, rfl⟩ := ends_perform.1 hq
    have hnone : Exchange.seen? blind ⟨_, c⟩ = none := Request.Escapes.seen?_eq hr
    have hys' := hys.2
    rw [hnone, Option.toList_none, List.append_nil] at hys'
    rw [seen_cons, hnone]
    exact ih c hp hk hxs hys'
  | both hlike hr hr' _ ih =>
    obtain ⟨c, xs', hk, rfl⟩ := ends_perform.1 hp
    obtain ⟨c', ys', hk', rfl⟩ := ends_perform.1 hq
    have hx : Exchange.Like ⟨_, c⟩ ⟨_, c'⟩ :=
      like_of_obeys hlike (hxs.1.resolve_left hr) (hys.1.resolve_left hr')
    have hseen := hx.seen?_eq blind
    have hys' := hys.2
    rw [← hseen] at hys'
    obtain ⟨hab, hrest⟩ := ih c c' hx hk hk' hxs.2 hys'
    refine ⟨hab, ?_⟩
    rw [seen_cons, seen_cons, hseen, hrest]

end Obeys

end Run
end Walkthrough
