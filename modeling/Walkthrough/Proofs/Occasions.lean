import Walkthrough.Proofs.Hosting

/-!
# Walkthrough.Proofs.Occasions

The requests of a run one by one, each with the state in which it is made, and so with its moments.

* `Program.occasions`: the requests of a run; `exchanges_occasions` says that its trace is made of
  them.
* `World.reactionTo`: how the browser reacts to a call that is made in a state; `answer_of_call` and
  `answer_of_rest` say what is answered to the requests of an attempt when the run is not cancelled.
* `now_of_call`, `now_of_rest`: how much time goes by, whether or not it is.
* `run_attempt_ok`, `run_within`, `run_execute`: runs of attempts, put together from their parts.
-/

namespace Walkthrough
namespace Run

open Browser

/-- A request, and how things stand when it is made. -/
structure Occasion (σ : Type) where
  state : State σ
  request : Request

namespace Occasion

variable {σ : Type}

/-- The millisecond in which the request is made. -/
def begun (o : Occasion σ) : Nat := o.state.now

def isCall (o : Occasion σ) : Bool := o.request.call?.isSome

/-- How things stand when the answer is there. -/
def after (w : World σ) (o : Occasion σ) : State σ := (respond w o.state o.request).2

/-- The millisecond in which the answer is there. -/
def ended (w : World σ) (o : Occasion σ) : Nat := (o.after w).now

def exchange (w : World σ) (o : Occasion σ) : Exchange :=
  ⟨o.request, (respond w o.state o.request).1⟩

end Occasion

/-- The requests of a run. -/
def Program.occasions {σ α : Type} (w : World σ) : Program α → State σ → List (Occasion σ)
  | .pure _, _ => []
  | .perform r k, st => ⟨st, r⟩ :: (k (respond w st r).1).occasions w (respond w st r).2

/-- The occasions on which a call is made. -/
def callsOf {σ : Type} (os : List (Occasion σ)) : List (Occasion σ) := os.filter Occasion.isCall

/-- How the browser reacts to a call that is made in a state. -/
def World.reactionTo {σ : Type} (w : World σ) (st : State σ) (session : Nat) (c : Call)
    (limit : Duration) : Reaction (Except Browser.Fault c.Result) :=
  (w.reaction session c (st.heed w (.call session c limit)).world).1

/-- How a call ends to which the browser reacts so. -/
def Reaction.ending {α : Type} (reaction : Reaction (Except Browser.Fault α)) (limit : Duration) :
    Ending α :=
  if reaction.delay ≤ limit.ceilMillis then .answered reaction.result else .late

section Occasions

variable {σ α β : Type} {w : World σ} {st : State σ} {p : Program α} {r : Request}

theorem exchanges_occasions (w : World σ) (p : Program α) (st : State σ) :
    (p.occasions w st).map (Occasion.exchange w) = p.trace w st := by
  induction p generalizing st with
  | pure a => rfl
  | perform r k ih => exact congrArg (_ :: ·) (ih _ _)

theorem run_bind (w : World σ) (p : Program α) (f : α → Program β) (st : State σ) :
    (p >>= f).run w st = (f (p.run w st).1).run w (p.run w st).2 :=
  p.run_bind w f st

theorem occasions_bind (w : World σ) (p : Program α) (f : α → Program β) (st : State σ) :
    (p >>= f).occasions w st =
      p.occasions w st ++ (f (p.run w st).1).occasions w (p.run w st).2 := by
  induction p generalizing st with
  | pure a => rfl
  | perform r k ih => exact congrArg (_ :: ·) (ih _ _)

theorem trace_bind (w : World σ) (p : Program α) (f : α → Program β) (st : State σ) :
    (p >>= f).trace w st = p.trace w st ++ (f (p.run w st).1).trace w (p.run w st).2 := by
  rw [← exchanges_occasions, occasions_bind, List.map_append, exchanges_occasions,
    exchanges_occasions]

@[simp] theorem run_ask (w : World σ) (r : Request) (st : State σ) :
    (Program.ask r).run w st = respond w st r := rfl

@[simp] theorem occasions_ask (w : World σ) (r : Request) (st : State σ) :
    (Program.ask r).occasions w st = [⟨st, r⟩] := rfl

/-! ## Runs that are not cancelled -/

theorem advances_finish (w : World σ) (st : State σ) (f : Flight r) :
    ∃ es, Advances st (finish w st f).2 es := by
  unfold finish
  split
  · exact ⟨_, ((Advances.advance st _).trans (.stop _)).trans (.drop _ f.landing)⟩
  · exact ⟨_, (Advances.advance st f.due).trans (.land w _ f.landing)⟩

theorem uncancelled_of_await {b : Begun r × State σ} (hc : (await w b).2.cancelled = false) :
    b.2.cancelled = false := by
  obtain ⟨b, st⟩ := b
  cases b with
  | done a => exact hc
  | flying f =>
    obtain ⟨es, hadvances⟩ := advances_finish w st f
    exact hadvances.uncancelled hc

theorem uncancelled_of_respond {a : Answer r × State σ} (h : respond w st r = a)
    (hc : a.2.cancelled = false) : st.cancelled = false := by
  rw [← h, respond_eq, begin] at hc
  exact (Advances.heed w st r).uncancelled (uncancelled_of_serve (uncancelled_of_await hc))

/-- What was not cancelled at the end was not before. -/
theorem uncancelled_of_run (hc : (p.run w st).2.cancelled = false) : st.cancelled = false := by
  induction p generalizing st with
  | pure a => exact hc
  | perform r k ih => exact uncancelled_of_respond rfl (ih _ hc)

/-- Nor was it in between. -/
theorem uncancelled_after (hc : (p.run w st).2.cancelled = false) :
    ∀ o ∈ p.occasions w st, (o.after w).cancelled = false := by
  induction p generalizing st with
  | pure a => exact List.forall_mem_nil _
  | perform r k ih => exact List.forall_mem_cons.2 ⟨uncancelled_of_run hc, ih _ hc⟩

/-- What has been launched is answered as it is due. -/
theorem answer_of_launch {f : Flight r} (hdue : st.now ≤ f.due)
    (hc : (await w (launch w st f)).2.cancelled = false) :
    (await w (launch w st f)).1 = f.answer f.due := by
  obtain ⟨hexchange, hahead⟩ := exchange_launch w hdue (uncancelled_of_await hc)
  generalize launch w st f = b at hc hexchange hahead
  obtain ⟨b, st'⟩ := b
  cases b with
  | done a => exact eq_of_heq (Exchange.mk.inj hexchange).2
  | flying g =>
    have hanswer := eq_of_heq (Exchange.mk.inj hexchange).2
    exact (answer_finish hc (.inr hahead)).trans hanswer

theorem answer_of_call {session : Nat} {c : Call} {limit : Duration} {a : Ending c.Result × Nat}
    {st' : State σ} (h : respond w st (.call session c limit) = (a, st'))
    (hc : st'.cancelled = false) :
    a = ((w.reactionTo st session c limit).ending limit,
      min (w.reactionTo st session c limit).delay limit.ceilMillis) := by
  obtain ⟨rfl, rfl⟩ := Prod.ext_iff.1 h
  rw [respond_eq, begin] at hc ⊢
  have hheed := uncancelled_of_serve (uncancelled_of_await hc)
  simp only [serve, hheed, Bool.false_eq_true, if_false] at hc ⊢
  rw [answer_of_launch (Nat.le_add_right _ _) hc]
  simp only [Flight.calling, Nat.add_sub_cancel_left, Reaction.ending]
  rfl

theorem answer_of_rest {span : Duration} {answer : Option Nat} {st' : State σ}
    (h : respond w st (.rest span) = (answer, st')) (hc : st'.cancelled = false) :
    answer = some 0 := by
  obtain ⟨rfl, rfl⟩ := Prod.ext_iff.1 h
  rw [respond_eq, begin] at hc ⊢
  have hheed := uncancelled_of_serve (uncancelled_of_await hc)
  simp only [serve, hheed, Bool.false_eq_true, if_false] at hc ⊢
  rw [answer_of_launch (Nat.le_add_right _ _) hc]
  simp only [Flight.resting, Nat.sub_self]

/-- The calls of a run that is not cancelled end as the browser reacts to them. -/
theorem ending_of_mem_trace (hc : (p.run w st).2.cancelled = false) {session : Nat} {c : Call}
    {limit : Duration} {a : Ending c.Result × Nat}
    (ha : (⟨.call session c limit, a⟩ : Exchange) ∈ p.trace w st) :
    ∃ st', a.1 = (w.reactionTo st' session c limit).ending limit := by
  rw [← exchanges_occasions] at ha
  obtain ⟨⟨st', r⟩, ho, hexchange⟩ := List.mem_map.1 ha
  obtain ⟨rfl, hanswer⟩ := Exchange.mk.inj hexchange
  have hend := answer_of_call (a := a) (Prod.ext (eq_of_heq hanswer) rfl)
    (uncancelled_after hc _ ho)
  exact ⟨st', congrArg Prod.fst hend⟩

/-! ## Time -/

/-- A request takes its time, whether or not the run is cancelled; what the store takes is not known
here. -/
theorem takes_of_respond (w : World σ) (st : State σ) (hr : ∀ key bytes, r ≠ .store key bytes) :
    st.now ≤ (respond w st r).2.now ∧
      Takes r (respond w st r).1 ((respond w st r).2.now - st.now) := by
  have hserved : Served st (respond w st r) :=
    served_unless w st r fun ⟨key, bytes, heq⟩ => absurd heq (hr key bytes)
  exact ⟨hserved.ages.now, hserved.takes⟩

variable {st' : State σ}

/-- A call takes the time that it is said to take, and no longer than its limit. -/
theorem now_of_call {session : Nat} {c : Call} {limit : Duration} {a : Ending c.Result × Nat}
    (h : respond w st (.call session c limit) = (a, st')) :
    st'.now = st.now + a.2 ∧ a.2 ≤ limit.ceilMillis := by
  obtain ⟨hle, htakes⟩ := takes_of_respond w st (r := .call session c limit) fun _ _ h =>
    Request.noConfusion h
  rw [h] at hle htakes
  simp only [Takes] at hle htakes
  omega

/-- A rest takes as long as it is to take, unless it is cut short. -/
theorem now_of_rest {span : Duration} {answer : Option Nat}
    (h : respond w st (.rest span) = (answer, st')) :
    st'.now ≤ st.now + span.ceilMillis ∧
      ∀ late, answer = some late → late = 0 ∧ st'.now = st.now + span.ceilMillis := by
  obtain ⟨hle, htakes⟩ := takes_of_respond w st (r := .rest span) fun _ _ h => Request.noConfusion h
  rw [h] at hle htakes
  simp only [Takes] at hle htakes
  refine ⟨by omega, fun late hlate => ?_⟩
  obtain ⟨hzero, hspan⟩ := htakes.2 late hlate
  exact ⟨hzero, by omega⟩

theorem Occasion.ended_eq {o : Occasion σ} {a : Answer o.request}
    (h : respond w o.state o.request = (a, st')) : o.ended w = st'.now := by
  rw [Occasion.ended, Occasion.after, h]

end Occasions

/-! ## Attempts -/

section Attempts

variable {σ α β : Type} {w : World σ} {st st' : State σ}

theorem run_attempt_ok {x : Attempt α} {f : α → Attempt β} {a : α}
    (h : x.run.run w st = (.ok a, st')) : (x >>= f).run.run w st = (f a).run.run w st' := by
  refine (run_bind w x.run _ st).trans ?_
  rw [h]
  rfl

theorem run_attempt_error {x : Attempt α} {f : α → Attempt β} {g : Failure}
    (h : x.run.run w st = (.error g, st')) : (x >>= f).run.run w st = (.error g, st') := by
  refine (run_bind w x.run _ st).trans ?_
  rw [h]
  rfl

theorem run_tryCatch_ok {x : Attempt α} {f : Failure → Attempt α} {a : α}
    (h : x.run.run w st = (.ok a, st')) : (tryCatch x f).run.run w st = (.ok a, st') := by
  refine (run_bind w x.run _ st).trans ?_
  rw [h]
  rfl

theorem run_tryCatch_error {x : Attempt α} {f : Failure → Attempt α} {g : Failure}
    (h : x.run.run w st = (.error g, st')) :
    (tryCatch x f).run.run w st = (f g).run.run w st' := by
  refine (run_bind w x.run _ st).trans ?_
  rw [h]
  rfl

theorem uncancelled_of_bind {p : Program α} {f : α → Program β}
    (hc : ((p >>= f).run w st).2.cancelled = false) : (p.run w st).2.cancelled = false := by
  rw [run_bind] at hc
  exact uncancelled_of_run hc

theorem occasions_timed (s : Session) (w : World σ) (c : Call) (limit : Duration) (st : State σ) :
    (s.timed c limit).occasions w st = [⟨st, .call s.id c limit⟩] := rfl

theorem run_timed {s : Session} {c : Call} {limit : Duration} {a : Ending c.Result × Nat}
    (h : respond w st (.call s.id c limit) = (a, st')) :
    (s.timed c limit).run w st = ((Run.outcome c limit a.1, nanosOfMillis a.2), st') := by
  rw [Session.timed, run_bind, run_ask, h]
  rfl

theorem run_within {s : Session} {c : Call} {limit : Duration} {a : Ending c.Result × Nat}
    (h : respond w st (.call s.id c limit) = (a, st')) :
    (s.within limit c).run.run w st = (outcome c limit a.1, st') := by
  refine (run_bind w (s.timed c limit) _ st).trans ?_
  rw [run_timed h]
  rfl

theorem pause_eq (span : Duration) : (pause span).run = Program.ask (.rest span) >>= fun
    | some _ => pure (.ok ())
    | none => pure (.error .cancelled) := rfl

theorem run_pause {span : Duration} (hc : ((pause span).run.run w st).2.cancelled = false) :
    ((pause span).run.run w st).1 = .ok () := by
  rw [pause_eq, run_bind, run_ask] at hc ⊢
  cases hrest : respond w st (.rest span) with
  | mk answer st' =>
    rw [hrest] at hc
    have hrested : st'.cancelled = false := uncancelled_of_run hc
    obtain rfl := answer_of_rest hrest hrested
    rfl

/-- What an attempt ends with is what its action ends with, if it is not cancelled while the page is
left alone. -/
theorem run_execute {s : Session} {step : Scenario.Step}
    (hc : ((s.execute step).run.run w st).2.cancelled = false) :
    ((s.execute step).run.run w st).1 = ((s.perform step.action).run.run w st).1 ∧
      ((s.perform step.action).run.run w st).2.cancelled = false := by
  unfold Session.execute at hc ⊢
  cases hrun : (s.perform step.action).run.run w st with
  | mk e st' =>
    cases e with
    | error g =>
      rw [run_attempt_error hrun] at hc ⊢
      exact ⟨rfl, hc⟩
    | ok u =>
      rw [run_attempt_ok hrun] at hc ⊢
      refine ⟨?_, uncancelled_of_run hc⟩
      by_cases hspan : step.waitTime ≠ .zero
      · rw [if_pos hspan] at hc ⊢
        exact run_pause hc
      · rw [if_neg hspan]
        rfl

theorem rests_of_pause (span : Duration) (w : World σ) (st : State σ) :
    ∀ x ∈ (pause span).run.trace w st, x.request.call? = none := by
  rw [pause_eq, trace_bind, run_ask]
  refine List.forall_mem_cons.2 ⟨rfl, ?_⟩
  cases (respond w st (.rest span)).1 with
  | none => exact List.forall_mem_nil _
  | some late => exact List.forall_mem_nil _

/-- Nor is any other call made while the page is left alone. -/
theorem trace_execute (s : Session) (step : Scenario.Step) (w : World σ) (st : State σ) :
    ∃ rests, (s.execute step).run.trace w st = (s.perform step.action).run.trace w st ++ rests ∧
      ∀ x ∈ rests, x.request.call? = none := by
  refine ⟨_, trace_bind w (s.perform step.action).run _ st, ?_⟩
  cases ((s.perform step.action).run.run w st).1 with
  | error f => exact List.forall_mem_nil _
  | ok u =>
    by_cases hspan : step.waitTime ≠ .zero
    · simp only [ExceptT.bindCont, if_pos hspan]
      exact rests_of_pause _ _ _
    · simp only [ExceptT.bindCont, if_neg hspan]
      exact List.forall_mem_nil _

end Attempts

end Run
end Walkthrough
