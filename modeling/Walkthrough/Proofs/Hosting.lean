import Walkthrough.Proofs.Calm
import Walkthrough.Proofs.Clock
import Walkthrough.Proofs.Likeness

/-!
# Walkthrough.Proofs.Hosting

Worlds whose sessions are all answered by one driver, each from the calls that were made on it.

* `World.Hosts`: the world answers as the driver does; a view of the world tells which calls were
  made on a session.
* `Program.HasOneSession`: a program that calls only the session that it has opened;
  `hasOneSession_placed` says so of scenarios.
* `Faithful`: a course obeys the driver, and its session has seen the calls of the course.
  `Faithful.begin` and `Faithful.finish` keep it through the two moves of a request, and
  `faithful_run` through a run that is not cancelled.
-/

namespace Walkthrough
namespace Run

open Browser

/-! ## Worlds -/

/-- Every session answers as the driver does, from the calls that were made on it and are seen. The
view of the world holds these calls. -/
structure World.Hosts {σ : Type} (w : World σ) (blind : Bool) (D : Driver)
    (view : σ → Nat → List Call) : Prop where
  opening : ∀ n x, (w.opening n x).1.result = D.opens
  opened : ∀ n x, view (w.opening n x).2 = Function.update (view x) n []
  reaction : ∀ s c x, c.isSeen blind = true →
    ((w.reaction s c x).1.result, (w.reaction s c x).1.delay) = D.answer (view x s) c
  heard : ∀ s c x, view (w.reaction s c x).2 =
    Function.update (view x) s (view x s ++ if c.isSeen blind then [c] else [])
  settled : ∀ s c x, view (w.settled s c x) = view x
  storing : ∀ key bytes x, view (w.storing key bytes x).2 = view x
  interrupts : ∀ r x, view (w.interrupts r x).2 = view x
  keeps : blind = false → ∀ key bytes x,
    (w.storing key bytes x).1.result.isSome = D.keeps key.undated

/-- The calls on a session that a request makes and that are seen. -/
def Request.seenOn (blind : Bool) (session : Nat) (r : Request) : List Call :=
  match r.call? with
  | some (s, c) => if s = session ∧ c.isSeen blind = true then [c] else []
  | none => []

/-- The exchange that a request comes to when its answer is neither late nor cut short. -/
def Begun.exchange {r : Request} : Begun r → Exchange
  | .done a => ⟨r, a⟩
  | .flying f => ⟨r, f.answer f.due⟩

/-- The answer is not due before some moment. -/
def Begun.IsAhead {r : Request} (moment : Nat) : Begun r → Prop
  | .done _ => True
  | .flying f => moment ≤ f.due

section Hosting

variable {σ : Type} {blind : Bool} {D : Driver} {view : σ → Nat → List Call} {w : World σ}
  {st : State σ} {r : Request}

@[simp] theorem world_note? (st : State σ) (e? : Option Event) :
    (st.note? e?).world = st.world := by
  cases e? <;> rfl

@[simp] theorem world_stop (st : State σ) : st.stop.world = st.world := by
  unfold State.stop
  split <;> rfl

@[simp] theorem world_stopIf (st : State σ) (stops : Bool) :
    (st.stopIf stops).world = st.world := by
  cases stops with
  | false => rfl
  | true => exact world_stop st

theorem sessions_heed (w : World σ) (st : State σ) (r : Request) :
    (st.heed w r).sessions = st.sessions := by
  change State.sessions (State.stopIf _ (w.interrupts r st.world).1) = _
  unfold State.stopIf
  split
  · unfold State.stop
    split
    · rfl
    · rfl
  · rfl

@[simp] theorem world_advance (st : State σ) (moment : Nat) :
    (st.advance moment).world = st.world := by
  unfold State.advance
  split
  · split
    · exact world_stop _
    · rfl
  · rfl

@[simp] theorem world_drop (st : State σ) (l : Landing) : (drop st l).world = st.world :=
  world_note? st _

theorem advances_launch (w : World σ) (st : State σ) (f : Flight r) :
    ∃ es, Advances st (launch w st f).2 es := by
  unfold launch
  split
  · exact ⟨_, .land w st f.landing⟩
  · split
    · exact ⟨_, .drop st f.landing⟩
    · exact ⟨_, .refl st⟩

/-- Nothing that is asked takes a cancellation back. -/
theorem uncancelled_of_serve (hc : (serve w st r).2.cancelled = false) : st.cancelled = false := by
  refine Bool.eq_false_iff.2 fun h => ?_
  have hserve : (serve w st r).2.cancelled = true := by
    cases r with
    | now => exact h
    | permit => exact h
    | shielded session c limit =>
      obtain ⟨es, hadvances⟩ := advances_launch w (st.call w session c).2
        (.shielding (st.call w session c).2.now session c limit (st.call w session c).1)
      exact hadvances.cancelled ((Advances.stopIf _ _).cancelled h)
    | store key bytes =>
      obtain ⟨es, hadvances⟩ := advances_launch w (st.store w key bytes).2
        (.storing (st.store w key bytes).2.now key bytes (st.store w key bytes).1)
      exact hadvances.cancelled ((Advances.stopIf _ _).cancelled h)
    | _ => simp [serve, h]
  rw [hserve] at hc
  cases hc

namespace World.Hosts

variable (hw : w.Hosts blind D view)
include hw

theorem view_land (st : State σ) (l : Landing) : view (land w st l).world = view st.world := by
  rw [land, ← world_note? st l.event?]
  generalize st.note? l.event? = st
  unfold settle
  split
  · exact hw.settled _ _ _
  · rfl

theorem view_launch (st : State σ) (f : Flight r) :
    view (launch w st f).2.world = view st.world := by
  unfold launch
  split
  · exact hw.view_land st f.landing
  · split
    · exact congrArg view (world_drop st f.landing)
    · rfl

theorem view_finish (st : State σ) (f : Flight r) :
    view (finish w st f).2.world = view st.world := by
  unfold finish
  split
  · simp
  · exact (hw.view_land _ f.landing).trans (congrArg view (world_advance st f.due))

theorem view_open (st : State σ) :
    view (st.open w).2.world = Function.update (view st.world) st.sessions [] :=
  (congrArg view (world_stopIf _ _)).trans (hw.opened _ _)

theorem view_call (st : State σ) (session : Nat) (c : Call) :
    view (st.call w session c).2.world = Function.update (view st.world) session
      (view st.world session ++ if c.isSeen blind then [c] else []) :=
  (congrArg view (world_stopIf _ _)).trans (hw.heard _ _ _)

theorem view_store (st : State σ) (key : Capture.Key) (bytes : ByteArray) :
    view (st.store w key bytes).2.world = view st.world :=
  (congrArg view (world_stopIf _ _)).trans (hw.storing _ _ _)

theorem view_heed (st : State σ) (r : Request) : view (st.heed w r).world = view st.world :=
  (congrArg view (world_stopIf _ _)).trans (hw.interrupts _ _)

/-! ## What a request does to the view -/

theorem view_call_at (st : State σ) (session : Nat) (c : Call) (t : Nat) :
    view (st.call w session c).2.world t =
      view st.world t ++ if session = t ∧ c.isSeen blind = true then [c] else [] := by
  rw [hw.view_call]
  by_cases ht : session = t
  · subst ht
    rw [Function.update_self]
    simp
  · rw [Function.update_of_ne (Ne.symm ht)]
    simp [ht]

/-- A session has seen what was called on it, and a new one nothing. -/
theorem view_serve (hc : (serve w st r).2.cancelled = false) {t : Nat}
    (ht : r = .openSession → t ≠ st.sessions) :
    view (serve w st r).2.world t = view st.world t ++ r.seenOn blind t := by
  have hst := uncancelled_of_serve hc
  cases r with
  | token next => simp [serve, hst, Request.seenOn, Request.call?, State.note]
  | now => simp [serve, Request.seenOn, Request.call?]
  | permit => simp [serve, Request.seenOn, Request.call?]
  | openSession =>
    simp only [serve, hst, Bool.false_eq_true, if_false]
    rw [hw.view_launch, hw.view_open, Function.update_of_ne (ht rfl)]
    exact (List.append_nil _).symm
  | call session c limit =>
    simp only [serve, hst, Bool.false_eq_true, if_false]
    rw [hw.view_launch]
    exact hw.view_call_at st session c t
  | shielded session c limit =>
    change view (launch w (st.call w session c).2 _).2.world t = _
    rw [hw.view_launch]
    exact hw.view_call_at st session c t
  | rest span =>
    simp only [serve, hst, Bool.false_eq_true, if_false]
    rw [hw.view_launch]
    exact (List.append_nil _).symm
  | store key bytes =>
    change view (launch w (st.store w key bytes).2 _).2.world t = _
    rw [hw.view_launch, hw.view_store]
    exact (List.append_nil _).symm

theorem view_begin (hc : (begin w st r).2.cancelled = false) {t : Nat}
    (ht : r = .openSession → t ≠ st.sessions) :
    view (begin w st r).2.world t = view st.world t ++ r.seenOn blind t := by
  rw [← sessions_heed w st r] at ht
  rw [← hw.view_heed st r]
  exact hw.view_serve hc ht

end World.Hosts

/-- What has been launched comes to its answer when that is due, if the run is not cancelled. -/
theorem exchange_launch (w : World σ) {f : Flight r} (hdue : st.now ≤ f.due)
    (hc : (launch w st f).2.cancelled = false) :
    (launch w st f).1.exchange = ⟨r, f.answer f.due⟩ ∧
      (launch w st f).1.IsAhead (launch w st f).2.now := by
  unfold launch at hc ⊢
  split
  · next hle => exact ⟨by rw [Nat.le_antisymm hdue hle]; rfl, trivial⟩
  · next hlt =>
    simp only [hlt, if_false] at hc
    split
    · next hcancelled hcut =>
      simp only [hcancelled, hcut] at hc
      have hdrop := (Advances.drop st f.landing).uncancelled hc
      rw [hcancelled] at hdrop
      cases hdrop
    · exact ⟨rfl, hdue⟩

/-- The exchange is the driver's, as far as it is seen. -/
def Exchange.Follows (blind : Bool) (D : Driver) (calls : List Call) (x : Exchange) : Prop :=
  x.request.Escapes blind ∨ x.Obeys D calls

theorem follows_launch (w : World σ) {f : Flight r} {calls : List Call}
    (hc : (launch w st f).2.cancelled = false) (hdue : st.now ≤ f.due)
    (hf : Exchange.Follows blind D calls ⟨r, f.answer f.due⟩) :
    (launch w st f).1.exchange.Follows blind D calls ∧
      (launch w st f).1.IsAhead (launch w st f).2.now := by
  obtain ⟨hexchange, hahead⟩ := exchange_launch w hdue hc
  rw [hexchange]
  exact ⟨hf, hahead⟩

theorem obeys_opening (D : Driver) (calls : List Call) (session : Nat)
    {result : Except Browser.Fault Unit} (h : result = D.opens) :
    Exchange.Obeys D calls ⟨.openSession, some (result.map fun _ => session)⟩ := by
  cases result with
  | ok u => exact .opened session h.symm
  | error f => exact .refused h.symm

theorem obeys_calling {D : Driver} {calls : List Call} {c : Call}
    {reaction : Reaction (Except Browser.Fault c.Result)}
    (h : (reaction.result, reaction.delay) = D.answer calls c) (since session : Nat)
    (limit : Duration) :
    let f := Flight.calling since session c limit reaction
    Exchange.Obeys D calls ⟨.call session c limit, f.answer f.due⟩ := by
  have hanswer : (Flight.calling since session c limit reaction).answer
      (Flight.calling since session c limit reaction).due = D.ending calls c limit := by
    simp only [Flight.calling, Driver.ending, ← h, Nat.add_sub_cancel_left]
    rfl
  intro f
  rw [show f.answer f.due = _ from hanswer]
  exact .call session c limit

theorem obeys_shielding {D : Driver} {calls : List Call} {c : Call}
    {reaction : Reaction (Except Browser.Fault c.Result)}
    (h : (reaction.result, reaction.delay) = D.answer calls c) (since session : Nat)
    (limit : Duration) :
    let f := Flight.shielding since session c limit reaction
    Exchange.Obeys D calls ⟨.shielded session c limit, f.answer f.due⟩ := by
  have hanswer : (Flight.shielding since session c limit reaction).answer
      (Flight.shielding since session c limit reaction).due = D.result? calls c limit := by
    simp only [Flight.shielding, Driver.result?, ← h]
    rfl
  intro f
  rw [show f.answer f.due = _ from hanswer]
  exact .shielded session c limit

theorem obeys_resting (D : Driver) (calls : List Call) (since : Nat) (span : Duration) :
    let f := Flight.resting since span
    Exchange.Obeys D calls ⟨.rest span, f.answer f.due⟩ := by
  have hanswer : (Flight.resting since span).answer (Flight.resting since span).due = some 0 := by
    simp only [Flight.resting, Nat.sub_self]
    rfl
  intro f
  rw [show f.answer f.due = _ from hanswer]
  exact .rest span

namespace World.Hosts

variable (hw : w.Hosts blind D view)
include hw

/-- A request that is served comes to what the driver answers: one case for each kind of request. -/
theorem follows_serve (hc : (serve w st r).2.cancelled = false) {calls : List Call}
    (hcalls : ∀ s c, r.call? = some (s, c) → view st.world s = calls) :
    (serve w st r).1.exchange.Follows blind D calls ∧
      (serve w st r).1.IsAhead (serve w st r).2.now := by
  have hst := uncancelled_of_serve hc
  cases r with
  | token next =>
    simp only [serve, hst, Bool.false_eq_true, if_false]
    exact ⟨.inr (.token next), trivial⟩
  | now => exact ⟨.inl trivial, trivial⟩
  | permit => exact ⟨.inr (.permit _), Nat.le_refl _⟩
  | openSession =>
    simp only [serve, hst, Bool.false_eq_true, if_false] at hc ⊢
    exact follows_launch w hc (Nat.le_add_right _ _)
      (.inr (obeys_opening D calls st.sessions (hw.opening _ _)))
  | call session c limit =>
    simp only [serve, hst, Bool.false_eq_true, if_false] at hc ⊢
    refine follows_launch w hc (Nat.le_add_right _ _) ?_
    cases hseen : c.isSeen blind with
    | false => exact .inl hseen
    | true =>
      have hanswer := hw.reaction session c st.world hseen
      rw [hcalls session c rfl] at hanswer
      exact .inr (obeys_calling hanswer _ session limit)
  | shielded session c limit =>
    refine follows_launch w hc (Nat.le_add_right _ _) ?_
    cases hseen : c.isSeen blind with
    | false => exact .inl hseen
    | true =>
      have hanswer := hw.reaction session c st.world hseen
      rw [hcalls session c rfl] at hanswer
      exact .inr (obeys_shielding hanswer _ session limit)
  | rest span =>
    simp only [serve, hst, Bool.false_eq_true, if_false] at hc ⊢
    exact follows_launch w hc (Nat.le_add_right _ _) (.inr (obeys_resting D calls _ span))
  | store key bytes =>
    refine follows_launch w hc (Nat.le_add_right _ _) ?_
    cases hblind : blind with
    | true => exact .inl rfl
    | false => exact .inr (.store bytes (hw.keeps hblind key bytes st.world))

/-- A session that comes has the next number, and nothing was called on it. -/
theorem opened_of_serve (hc : (serve w st .openSession).2.cancelled = false) {s : Nat}
    (h : (serve w st .openSession).1.exchange = ⟨.openSession, some (.ok s)⟩) :
    s = st.sessions ∧ view (serve w st .openSession).2.world s = [] := by
  have hst := uncancelled_of_serve hc
  simp only [serve, hst, Bool.false_eq_true, if_false] at hc h ⊢
  obtain ⟨hexchange, -⟩ := exchange_launch w (Nat.le_add_right _ _) hc
  have hanswer : ((st.open w).1.result.map fun _ => st.sessions) = .ok s :=
    Option.some.inj (eq_of_heq (Exchange.mk.inj (hexchange.symm.trans h)).2)
  have hs : s = st.sessions := by
    cases hresult : (st.open w).1.result with
    | ok u =>
      rw [hresult] at hanswer
      exact (Except.ok.inj hanswer).symm
    | error f =>
      rw [hresult] at hanswer
      cases hanswer
  refine ⟨hs, ?_⟩
  rw [hw.view_launch, hw.view_open, hs, Function.update_self]

end World.Hosts

end Hosting

/-! ## Programs with one session -/

/-- A request accords with what went before: a call is made on the session that was opened, and a
session is opened once, before any call. -/
structure Request.Accords (xs : List Exchange) (r : Request) : Prop where
  calls : ∀ s c, r.call? = some (s, c) → ⟨.openSession, some (.ok s)⟩ ∈ xs ∧
    ∀ t, ⟨.openSession, some (.ok t)⟩ ∈ xs → t = s
  opening : r = .openSession → ∀ x ∈ xs, x.request.call? = none ∧ x.request ≠ .openSession

/-- Every request of a course accords with what went before. -/
def Accord (xs : List Exchange) : Prop :=
  ∀ us x vs, xs = us ++ x :: vs → x.request.Accords us

/-- A program that calls only the session that it has opened. -/
def Program.HasOneSession {α : Type} (p : Program α) : Prop :=
  ∀ xs r k, Course p xs (.perform r k) → r.Accords xs

theorem accords_of_quiet {xs : List Exchange} {r : Request} (hcall : r.call? = none)
    (hopen : r ≠ .openSession) : r.Accords xs where
  calls s c h := by
    rw [hcall] at h
    cases h
  opening h := absurd h hopen

theorem accord_cons {x : Exchange} {xs : List Exchange} (hcall : x.request.call? = none)
    (hopen : x.request ≠ .openSession) (h : Accord xs) : Accord (x :: xs) := by
  intro us y vs heq
  cases us with
  | nil =>
    obtain ⟨rfl, -⟩ := List.cons.inj heq
    exact accords_of_quiet hcall hopen
  | cons u us =>
    obtain ⟨rfl, htail⟩ := List.cons.inj heq
    obtain ⟨hcalls, hopening⟩ := h us y vs htail
    refine ⟨fun s c hc => ?_, fun hr => List.forall_mem_cons.2 ⟨⟨hcall, hopen⟩, hopening hr⟩⟩
    obtain ⟨hmem, honly⟩ := hcalls s c hc
    refine ⟨List.mem_cons_of_mem _ hmem, fun t ht => ?_⟩
    rcases List.mem_cons.1 ht with rfl | ht
    · exact absurd rfl hopen
    · exact honly t ht

theorem accord_nil : Accord [] := fun us x vs h => by cases us <;> cases h

/-- Once a session is open, everything is done in it. -/
theorem accord_of_inSession {session : Nat} {xs : List Exchange}
    (h : ∀ x ∈ xs, x.request ≠ .openSession ∧ ∀ s c, x.request.call? = some (s, c) → s = session) :
    Accord (⟨.openSession, some (.ok session)⟩ :: xs) := by
  intro us y vs heq
  cases us with
  | nil =>
    obtain ⟨rfl, -⟩ := List.cons.inj heq
    exact ⟨nofun, fun _ => List.forall_mem_nil _⟩
  | cons u us =>
    obtain ⟨rfl, rfl⟩ := List.cons.inj heq
    obtain ⟨hus, hy, -⟩ := List.forall_mem_append.1 h |>.imp_right List.forall_mem_cons.1
    refine ⟨fun s c hc => ?_, fun hr => absurd hr hy.1⟩
    obtain rfl := hy.2 s c hc
    refine ⟨List.mem_cons_self, fun t ht => ?_⟩
    rcases List.mem_cons.1 ht with ht | ht
    · cases ht
      rfl
    · exact absurd rfl (hus _ ht).1

theorem hasOneSession_of_ends {α : Type} {p : Program α}
    (h : ∀ xs a, Ends p xs a → Accord xs) : p.HasOneSession := by
  intro xs r k hc
  obtain ⟨ys, b, hk⟩ := exists_ends (k (Answer.any r))
  exact h _ b (hc.trans (.step hk)) xs ⟨r, Answer.any r⟩ ys rfl

section Scenario

variable {plan : Config.Plan} {tree : Files.Tree} {entry : Config.Entry}

theorem accord_of_scenario {xs : List Exchange} {r : Report.ScenarioResult}
    (h : Ends (scenario plan tree entry) xs r) : Accord xs := by
  cases ends_scenario h with
  | unloaded =>
    exact accord_cons rfl nofun (accord_cons rfl nofun accord_nil)
  | unopened d f started ended hload hanswer =>
    refine accord_cons rfl nofun fun us x vs heq => ?_
    match us, heq with
    | [], heq =>
      obtain ⟨rfl, -⟩ := List.cons.inj heq
      exact ⟨nofun, fun _ => List.forall_mem_nil _⟩
    | [_], heq =>
      obtain ⟨rfl, -⟩ := List.cons.inj (List.cons.inj heq).2
      exact accords_of_quiet rfl nofun
    | _ :: _ :: us, heq =>
      have := congrArg List.length heq
      simp at this
  | opened d session started ended ys closed hload hall =>
    have hys := Performer.isInSession_of_runAll (isUnited_performer plan d.name session) hall
    refine accord_cons rfl nofun (accord_of_inSession fun x hx => ?_)
    simp only [List.mem_append, List.mem_cons, List.not_mem_nil, or_false] at hx
    rcases hx with hx | rfl | rfl
    · refine ⟨fun heq => ?_, fun s c hc => ((hys x hx).call hc).1⟩
      have hin := hys x hx
      rw [heq] at hin
      exact hin.elim False.elim False.elim
    · refine ⟨nofun, fun s c hc => ?_⟩
      exact (Prod.mk.inj (Option.some.inj hc)).1.symm
    · exact ⟨nofun, nofun⟩

theorem hasOneSession_scenario (plan : Config.Plan) (tree : Files.Tree) (entry : Config.Entry) :
    (scenario plan tree entry).HasOneSession :=
  hasOneSession_of_ends fun _ _ h => accord_of_scenario h

end Scenario

/-! ## Faithful courses -/

/-- A course that the driver answers, whose session has seen the calls of the course and no other
ones. -/
structure Faithful {σ : Type} (blind : Bool) (D : Driver) (view : σ → Nat → List Call) (x : σ)
    (xs : List Exchange) : Prop where
  obeys : Obeys blind D [] xs
  attends : ∀ s, ⟨.openSession, some (.ok s)⟩ ∈ xs → view x s = seen blind xs

section Faithful

variable {σ : Type} {start blind : Bool} {D : Driver} {view : σ → Nat → List Call} {w : World σ}
  {st : State σ} {r : Request} {xs : List Exchange}

theorem faithful_nil (blind : Bool) (D : Driver) (view : σ → Nat → List Call) (x : σ) :
    Faithful blind D view x [] :=
  ⟨trivial, fun _ hs => nomatch hs⟩

theorem Begun.request_exchange (b : Begun r) : b.exchange.request = r := by
  cases b <;> rfl

/-- What a request of the course makes of its session is seen in the exchange. -/
theorem Request.Accords.seenOn_eq (hr : r.Accords xs) {s : Nat}
    (hs : ⟨.openSession, some (.ok s)⟩ ∈ xs) {x : Exchange} (hx : x.request = r) :
    r.seenOn blind s = (x.seen? blind).toList := by
  subst hx
  unfold Request.seenOn Exchange.seen?
  cases hcall : x.request.call? with
  | none => rfl
  | some sc =>
    obtain ⟨t, c⟩ := sc
    obtain ⟨-, honly⟩ := hr.calls t c hcall
    obtain rfl := honly s hs
    cases hseen : c.isSeen blind <;> simp [Option.filter, hseen]

/-- Before a session is opened nothing is called. -/
theorem Request.Accords.seen_eq_nil (h : Request.Accords xs .openSession) :
    seen blind xs = [] := by
  refine List.filterMap_eq_nil_iff.2 fun x hx => ?_
  rw [Exchange.seen?, (h.opening rfl x hx).1]
  rfl

/-- A request of the course begins. -/
theorem Faithful.begin (hw : w.Hosts blind D view) (hf : Faithful blind D view st.world xs)
    (hr : r.Accords xs) (hc : (begin w st r).2.cancelled = false) :
    Faithful blind D view (begin w st r).2.world (xs ++ [(begin w st r).1.exchange]) ∧
      (begin w st r).1.IsAhead (begin w st r).2.now := by
  have hcalls : ∀ s c, r.call? = some (s, c) → view (st.heed w r).world s = seen blind xs := by
    intro s c hcall
    rw [hw.view_heed]
    exact hf.attends s (hr.calls s c hcall).1
  obtain ⟨hfollows, hahead⟩ := hw.follows_serve hc hcalls
  have hrequest := (Run.begin w st r).1.request_exchange
  refine ⟨⟨obeys_append.2 ⟨hf.obeys, ?_, trivial⟩, fun s hs => ?_⟩, hahead⟩
  · rwa [List.nil_append]
  rw [seen_append, seen_cons, seen_nil, List.append_nil]
  rcases List.mem_append.1 hs with hs | hs
  · -- A session that was open before has seen the call that is made on it now.
    have hold : r = .openSession → s ≠ st.sessions := fun hopen =>
      absurd rfl (hr.opening hopen _ hs).2
    rw [← hr.seenOn_eq hs hrequest, ← hf.attends s hs]
    exact hw.view_begin hc hold
  · have hnew := (List.mem_singleton.1 hs).symm
    obtain rfl : r = .openSession := hrequest.symm.trans (congrArg Exchange.request hnew)
    obtain ⟨-, hview⟩ := hw.opened_of_serve hc hnew
    rw [hr.seen_eq_nil, hnew]
    exact hview

/-- A flight that is not late ends with the answer that is due. -/
theorem answer_finish {f : Flight r} (hc : (finish w st f).2.cancelled = false)
    (htime : r = .permit ∨ st.now ≤ f.due) : (finish w st f).1 = f.answer f.due := by
  unfold finish at hc ⊢
  split at hc
  · next answer c hcut hat =>
    have hstop := (Advances.drop (st.advance c).stop f.landing).uncancelled hc
    rw [cancelled_stop] at hstop
    cases hstop
  · rcases htime with rfl | htime
    · rfl
    · change f.answer (st.advance f.due).now = f.answer f.due
      rw [now_advance, Nat.max_eq_right htime]

theorem Faithful.finish (hw : w.Hosts blind D view) {f : Flight r}
    (hf : Faithful blind D view st.world (xs ++ [⟨r, f.answer f.due⟩]))
    (hc : (finish w st f).2.cancelled = false) (htime : r = .permit ∨ st.now ≤ f.due) :
    Faithful blind D view (finish w st f).2.world (xs ++ [⟨r, (finish w st f).1⟩]) := by
  rw [answer_finish hc htime]
  refine ⟨hf.obeys, fun s hs => ?_⟩
  rw [hw.view_finish]
  exact hf.attends s hs

theorem Faithful.respond (hw : w.Hosts blind D view) (hkept : Kept start st) (hheeds : r.Heeds)
    (hf : Faithful blind D view st.world xs) (hr : r.Accords xs)
    (hc : (respond w st r).2.cancelled = false) :
    Faithful blind D view (respond w st r).2.world (xs ++ [⟨r, (respond w st r).1⟩]) := by
  obtain ⟨es, hadvances, hkept', hfits⟩ := begin_spec w hkept hheeds
  have hbegin : (Run.begin w st r).2.cancelled = false → _ := hf.begin hw hr
  rw [respond_eq] at hc ⊢
  generalize Run.begin w st r = b at hadvances hkept' hfits hbegin hc
  obtain ⟨b, st'⟩ := b
  cases b with
  | done a => exact (hbegin hc).1
  | flying f =>
    obtain ⟨fs, hadvances', -, -⟩ := finish_spec w hfits hkept'
    obtain ⟨hfaithful, hahead⟩ := hbegin (hadvances'.uncancelled hc)
    exact hfaithful.finish hw hc (.inr hahead)

/-- A run that is not cancelled goes through a course that the driver answers. -/
theorem faithful_run {α : Type} (hw : w.Hosts blind D view) {p q : Program α}
    (hone : p.HasOneSession) (hcourse : Course p xs q) (hq : q.Asks Request.Heeds)
    (hkept : Kept start st) (hf : Faithful blind D view st.world xs)
    (hc : (q.run w st).2.cancelled = false) :
    ∃ ys es, Ends q ys (q.run w st).1 ∧
      Faithful blind D view (q.run w st).2.world (xs ++ ys) ∧ Recounts ys es ∧
      Advances st (q.run w st).2 es := by
  induction q generalizing st xs with
  | pure a =>
    exact ⟨[], [], .refl _, (List.append_nil xs).symm ▸ hf, .nil, .refl st⟩
  | perform r k ih =>
    obtain ⟨es, hadvances, hkept', hleaves, -⟩ := respond_spec w hkept hq.1
    obtain ⟨_, _, -, -, hafter, -⟩ := run_spec w (hq.2 (respond w st r).1) hkept'
    have hstep := hf.respond hw hkept hq.1 (hone _ _ _ hcourse) (hafter.uncancelled hc)
    obtain ⟨ys, fs, hends, hfaithful, hrecounts, hadvances'⟩ :=
      ih (respond w st r).1 (hcourse.snoc _) (hq.2 _) hkept' hstep hc
    rw [List.append_assoc] at hfaithful
    exact ⟨_, _, .step hends, hfaithful, .cons hleaves hrecounts, hadvances.trans hadvances'⟩

end Faithful

/-! ## Drivers have worlds -/

/-- A world that remembers what was called on each session and answers as a driver does. What an
observer does not see is answered apart, and some captures are kept. -/
def Driver.host (D : Driver) (blind : Bool)
    (shots : (c : Call) → Reaction (Except Browser.Fault c.Result)) (keeps : Capture.Key → Bool) :
    World (Nat → List Call) where
  opening n x := (.atOnce D.opens, Function.update x n [])
  reaction s c x :=
    if c.isSeen blind then
      (⟨(D.answer (x s) c).1, (D.answer (x s) c).2, false⟩, Function.update x s (x s ++ [c]))
    else (shots c, x)
  settled _ _ x := x
  storing key _ x := (.atOnce (if keeps key.undated then some key.fileName else none), x)
  interrupts _ x := (false, x)
  wall _ := default

theorem Driver.hosts_host (D : Driver) (blind : Bool)
    (shots : (c : Call) → Reaction (Except Browser.Fault c.Result)) {keeps : Capture.Key → Bool}
    (hkeeps : blind = false → keeps = D.keeps) :
    (D.host blind shots keeps).Hosts blind D id where
  opening _ _ := rfl
  opened _ _ := rfl
  reaction s c x hc := by
    simp only [host, hc, if_true]
    rfl
  heard s c x := by
    cases hc : c.isSeen blind with
    | true => simp [host, hc]
    | false => simp [host, hc]
  settled _ _ _ := rfl
  storing _ _ _ := rfl
  interrupts _ _ := rfl
  keeps hblind key bytes x := by
    rw [← hkeeps hblind]
    cases hkey : keeps key.undated <;> simp [host, Reaction.atOnce, hkey]

theorem Driver.isCalm_host (D : Driver) (blind : Bool)
    {shots : (c : Call) → Reaction (Except Browser.Fault c.Result)}
    (hshots : ∀ c, (shots c).cancels = false) (keeps : Capture.Key → Bool) :
    (D.host blind shots keeps).IsCalm where
  opening _ _ := rfl
  reaction s c x := by
    cases hc : c.isSeen blind with
    | true => simp [host, hc]
    | false => simpa [host, hc] using hshots c
  storing _ _ _ := rfl
  interrupts _ _ := rfl

end Run
end Walkthrough
