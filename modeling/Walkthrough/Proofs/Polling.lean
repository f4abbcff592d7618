import Walkthrough.Proofs.Limits
import Walkthrough.Proofs.Occasions

/-!
# Walkthrough.Proofs.Polling

A call that is made again and again until a deadline.

* `Poll.Rounds`: the courses of polling, a call and a nap in turn. By induction on them: when calls
  are made (`begun_le`, `idle`) and how many (`length_le`), what is known when the time is over
  (`of_exhausted`), and that nothing is missed which is there for one call before the deadline
  (`settles`).
* `Poll.IsLoop`: what a loop with a budget has to do for it; `IsLoop.rounds` says that it polls
  then.
* `isLoop_locateWithin`, `isLoop_readWithin`: the two loops of attempts do.
-/

namespace Walkthrough
namespace Run

open Browser

/-- A call that is made again and again, as long as it ends in a certain way. -/
structure Poll where
  session : Session
  call : Call
  limit : Duration
  again : Ending call.Result → Prop

def Poll.request (p : Poll) : Request := .call p.session.id p.call p.limit

/-- How the browser reacts to the call when it is made in a state. -/
def Poll.reactionTo {σ : Type} (p : Poll) (w : World σ) (st : State σ) :
    Reaction (Except Browser.Fault p.call.Result) :=
  w.reactionTo st p.session.id p.call p.limit

/-- The nap at a moment before the deadline, both in nanoseconds. -/
def napUntil (deadline moment : Nat) : Request := .rest ⟨min pollInterval.nanos (deadline - moment)⟩

/-- How polling comes to an end. -/
inductive Close (α : Type) where
  /-- A call ended so that it is not made again. -/
  | settled (ending : Ending α)
  /-- The time was over. -/
  | exhausted
  /-- The run was cancelled during a nap. -/
  | interrupted

/-- The requests of polling until a deadline (in nanoseconds), from one state to another: a call,
then a nap as long as there is time, and from the beginning. -/
inductive Poll.Rounds {σ : Type} (p : Poll) (w : World σ) (deadline : Nat) :
    State σ → List (Occasion σ) → Close p.call.Result → State σ → Prop where
  | settled {st st' : State σ} {a : Ending p.call.Result × Nat} :
      respond w st p.request = (a, st') → ¬ p.again a.1 →
      Rounds p w deadline st [⟨st, p.request⟩] (.settled a.1) st'
  | exhausted {st st' : State σ} {a : Ending p.call.Result × Nat} :
      respond w st p.request = (a, st') → p.again a.1 → deadline ≤ nanosOfMillis st'.now →
      Rounds p w deadline st [⟨st, p.request⟩] .exhausted st'
  | interrupted {st st' st'' : State σ} {a : Ending p.call.Result × Nat} :
      respond w st p.request = (a, st') → p.again a.1 → nanosOfMillis st'.now < deadline →
      respond w st' (napUntil deadline (nanosOfMillis st'.now)) = ((none : Option Nat), st'') →
      Rounds p w deadline st
        [⟨st, p.request⟩, ⟨st', napUntil deadline (nanosOfMillis st'.now)⟩] .interrupted st''
  | next {st st' st'' last : State σ} {a : Ending p.call.Result × Nat} {late : Nat}
      {os : List (Occasion σ)} {close : Close p.call.Result} :
      respond w st p.request = (a, st') → p.again a.1 → nanosOfMillis st'.now < deadline →
      respond w st' (napUntil deadline (nanosOfMillis st'.now)) = (some late, st'') →
      Rounds p w deadline st'' os close last →
      Rounds p w deadline st
        (⟨st, p.request⟩ :: ⟨st', napUntil deadline (nanosOfMillis st'.now)⟩ :: os) close last

section Moments

variable {σ : Type} {w : World σ} {st st' : State σ} {deadline : Nat}

theorem nanosOfMillis_add (m n : Nat) :
    nanosOfMillis (m + n) = nanosOfMillis m + nanosOfMillis n := Nat.add_mul m n 1000000

/-- A nap before the deadline takes a quarter of a second, or until the first millisecond that is
not before the deadline. -/
theorem ceilMillis_nap (deadline moment : Nat) :
    (Duration.mk (min pollInterval.nanos (deadline - nanosOfMillis moment))).ceilMillis =
      min 250 ((Duration.mk deadline).ceilMillis - moment) := by
  simp only [nanosOfMillis, Duration.ofMillis, Duration.ceilMillis, pollInterval]
  omega

/-- Whether or not it is cut short, it does not take longer. -/
theorem now_le_of_nap {answer : Option Nat} (hbefore : nanosOfMillis st.now < deadline)
    (h : respond w st (napUntil deadline (nanosOfMillis st.now)) = (answer, st')) :
    st'.now ≤ (Duration.mk deadline).ceilMillis := by
  obtain ⟨hle, -⟩ := now_of_rest h
  have hlt := lt_ceilMillis (Nat.sub_ne_zero_of_lt hbefore)
  rw [ceilMillis_nap] at hle
  omega

theorem now_of_nap {late : Nat} (hbefore : nanosOfMillis st.now < deadline)
    (h : respond w st (napUntil deadline (nanosOfMillis st.now)) = (some late, st')) :
    st'.now = min (st.now + 250) (Duration.mk deadline).ceilMillis := by
  obtain ⟨-, hnow⟩ := (now_of_rest h).2 late rfl
  have hlt := lt_ceilMillis (Nat.sub_ne_zero_of_lt hbefore)
  rw [ceilMillis_nap] at hnow
  omega

end Moments

theorem callsOf_request {σ : Type} (p : Poll) (st : State σ) (os : List (Occasion σ)) :
    callsOf (⟨st, p.request⟩ :: os) = ⟨st, p.request⟩ :: callsOf os := rfl

theorem callsOf_nap {σ : Type} (st : State σ) (deadline moment : Nat) (os : List (Occasion σ)) :
    callsOf (⟨st, napUntil deadline moment⟩ :: os) = callsOf os := rfl

namespace Poll.Rounds

variable {σ : Type} {p : Poll} {w : World σ} {deadline : Nat} {st last : State σ}
  {os : List (Occasion σ)} {close : Close p.call.Result}

/-- The first call is made at once. -/
theorem head (h : p.Rounds w deadline st os close last) :
    ∃ ps, callsOf os = ⟨st, p.request⟩ :: ps := by
  cases h <;> exact ⟨_, rfl⟩

theorem not_again {ending : Ending p.call.Result}
    (h : p.Rounds w deadline st os (.settled ending) last) : ¬ p.again ending := by
  generalize hclose : Close.settled ending = close at h
  induction h with
  | settled ha hagain =>
    cases hclose
    exact hagain
  | exhausted | interrupted => cases hclose
  | next ha hagain hbefore hnap hrest ih => exact ih hclose

/-- Polling that is not cancelled ends with the answer to a call, or when the time is over. -/
theorem settled_or_exhausted (h : p.Rounds w deadline st os close last)
    (hc : last.cancelled = false) :
    (∃ o ∈ callsOf os, close = .settled (respond w o.state p.request).1.1) ∨
      close = .exhausted := by
  induction h with
  | settled ha hagain =>
    refine .inl ⟨_, List.mem_cons_self, ?_⟩
    rw [ha]
  | exhausted => exact .inr rfl
  | interrupted ha hagain hbefore hnap => cases answer_of_rest hnap hc
  | next ha hagain hbefore hnap hrest ih =>
    refine (ih hc).imp_left ?_
    rintro ⟨o, ho, hclose⟩
    exact ⟨o, List.mem_cons_of_mem _ ho, hclose⟩

/-- Only the call is made, again and again. -/
theorem requests (h : p.Rounds w deadline st os close last) :
    ∀ o ∈ callsOf os, o.request = p.request := by
  induction h with
  | settled | exhausted | interrupted => exact List.forall_mem_singleton.2 rfl
  | next ha hagain hbefore hnap hrest ih => exact List.forall_mem_cons.2 ⟨rfl, ih⟩

/-- Between the calls there are naps, each before the deadline and no longer than to it. -/
theorem naps (h : p.Rounds w deadline st os close last) :
    ∀ o ∈ os, o.isCall = false →
      nanosOfMillis o.begun < deadline ∧ o.request = napUntil deadline (nanosOfMillis o.begun) := by
  induction h with
  | settled | exhausted => exact List.forall_mem_singleton.2 nofun
  | interrupted ha hagain hbefore hnap =>
    exact List.forall_mem_cons.2 ⟨nofun, List.forall_mem_singleton.2 fun _ => ⟨hbefore, rfl⟩⟩
  | next ha hagain hbefore hnap hrest ih =>
    exact List.forall_mem_cons.2 ⟨nofun, List.forall_mem_cons.2 ⟨fun _ => ⟨hbefore, rfl⟩, ih⟩⟩

/-- No call is made after the deadline, but the first. -/
theorem begun_le (h : p.Rounds w deadline st os close last) :
    ∀ o ∈ callsOf os, o.begun ≤ max st.now (Duration.mk deadline).ceilMillis := by
  induction h with
  | settled | exhausted | interrupted => exact List.forall_mem_singleton.2 (Nat.le_max_left _ _)
  | next ha hagain hbefore hnap hrest ih =>
    refine List.forall_mem_cons.2 ⟨Nat.le_max_left _ _, fun o ho => ?_⟩
    have hdeadline := now_le_of_nap hbefore hnap
    have hle := ih o ho
    rw [Nat.max_eq_right hdeadline] at hle
    exact Nat.le_trans hle (Nat.le_max_right _ _)

/-- It is over when the deadline is, but for one more call. -/
theorem now_le (h : p.Rounds w deadline st os close last) :
    last.now ≤ max st.now (Duration.mk deadline).ceilMillis + p.limit.ceilMillis := by
  induction h with
  | settled ha | exhausted ha =>
    obtain ⟨hnow, hlimit⟩ := now_of_call ha
    omega
  | interrupted ha hagain hbefore hnap =>
    have hle := now_le_of_nap hbefore hnap
    omega
  | next ha hagain hbefore hnap hrest ih =>
    have hdeadline := now_le_of_nap hbefore hnap
    omega

/-- There are no more calls than quarters of a second before the deadline, and one. -/
theorem length_le (h : p.Rounds w deadline st os close last) :
    (callsOf os).length ≤ ((Duration.mk deadline).ceilMillis - st.now + 249) / 250 + 1 := by
  induction h with
  | settled | exhausted | interrupted => exact Nat.le_add_left 1 _
  | next ha hagain hbefore hnap hrest ih =>
    obtain ⟨hcall, -⟩ := now_of_call ha
    have hnow := now_of_nap hbefore hnap
    have hlt := lt_ceilMillis (Nat.sub_ne_zero_of_lt hbefore)
    rw [callsOf_request, callsOf_nap, List.length_cons]
    omega

/-- Between two calls there is at most a quarter of a second. -/
theorem idle (h : p.Rounds w deadline st os close last) :
    (callsOf os).IsChain fun x y => x.ended w ≤ y.begun ∧ y.begun ≤ x.ended w + 250 := by
  induction h with
  | settled | exhausted | interrupted => exact .singleton _
  | @next st st' st'' last a late os close ha hagain hbefore hnap hrest ih =>
    rw [callsOf_request, callsOf_nap]
    obtain ⟨ps, hps⟩ := hrest.head
    rw [hps] at ih ⊢
    have hended : Occasion.ended w ⟨st, p.request⟩ = st'.now :=
      Occasion.ended_eq (o := ⟨st, p.request⟩) ha
    have hnow := now_of_nap hbefore hnap
    have hlt := lt_ceilMillis (Nat.sub_ne_zero_of_lt hbefore)
    refine .cons_cons ?_ ih
    rw [hended]
    dsimp only [Occasion.begun]
    omega

/-- When the time is over, every call was one to make again, and the last one has ended after the
deadline. -/
theorem of_exhausted (h : p.Rounds w deadline st os .exhausted last) :
    (∀ o ∈ callsOf os, p.again (respond w o.state p.request).1.1) ∧
      ∃ o, (callsOf os).getLast? = some o ∧ deadline ≤ nanosOfMillis (o.ended w) := by
  generalize hclose : Close.exhausted = close at h
  induction h with
  | settled | interrupted => cases hclose
  | exhausted ha hagain hover =>
    refine ⟨List.forall_mem_singleton.2 ?_, ⟨_, p.request⟩, rfl, ?_⟩
    · rw [ha]
      exact hagain
    · rw [Occasion.ended_eq (o := ⟨_, p.request⟩) ha]
      exact hover
  | next ha hagain hbefore hnap hrest ih =>
    obtain ⟨hall, o, hlast, hover⟩ := ih hclose
    refine ⟨List.forall_mem_cons.2 ⟨?_, hall⟩, o, ?_, hover⟩
    · rw [ha]
      exact hagain
    · rw [callsOf_request, callsOf_nap, List.getLast?_cons, hlast]
      rfl

/-! ## What is not missed -/

/-- A call that is answered within its limit. -/
theorem answer_of_prompt {st' : State σ} {a : Ending p.call.Result × Nat} {longest : Duration}
    (ha : respond w st p.request = (a, st')) (hc : st'.cancelled = false)
    (hlimit : longest.nanos ≤ p.limit.nanos)
    (hprompt : nanosOfMillis (p.reactionTo w st).delay ≤ longest.nanos) :
    a.1 = .answered (p.reactionTo w st).result ∧
      nanosOfMillis st'.now ≤ nanosOfMillis st.now + longest.nanos := by
  obtain ⟨hnow, -⟩ := now_of_call ha
  have hanswer : a = ((p.reactionTo w st).ending p.limit,
      min (p.reactionTo w st).delay p.limit.ceilMillis) := answer_of_call ha hc
  have hdelay : (p.reactionTo w st).delay ≤ p.limit.ceilMillis := by
    simp only [nanosOfMillis, Duration.ofMillis, Duration.ceilMillis] at *
    omega
  rw [Nat.min_eq_left hdelay, Reaction.ending, if_pos hdelay] at hanswer
  constructor
  · rw [hanswer]
  · rw [hnow, hanswer, nanosOfMillis_add]
    exact Nat.add_le_add_left hprompt _

/-- If all calls are answered in time, and those from some moment on as is waited for, then one of
them settles it, provided that the moment leaves time for one call before the deadline. -/
theorem settles (h : p.Rounds w deadline st os close last) (hc : last.cancelled = false)
    {longest : Duration} {appears : Nat} (hlimit : longest.nanos ≤ p.limit.nanos)
    (happears : appears + longest.nanos ≤ deadline)
    (hprompt : ∀ o ∈ callsOf os, nanosOfMillis (p.reactionTo w o.state).delay ≤ longest.nanos)
    (hseen : ∀ o ∈ callsOf os, appears ≤ nanosOfMillis o.begun →
      ¬ p.again (.answered (p.reactionTo w o.state).result)) :
    ∃ o ∈ callsOf os, close = .settled (.answered (p.reactionTo w o.state).result) ∧
      ¬ p.again (.answered (p.reactionTo w o.state).result) := by
  induction h with
  | @settled st st' a ha hagain =>
    have hmem : ⟨st, p.request⟩ ∈ callsOf [⟨st, p.request⟩] := List.mem_cons_self
    obtain ⟨hanswer, -⟩ := answer_of_prompt ha hc hlimit (hprompt ⟨st, p.request⟩ hmem)
    rw [hanswer] at hagain ⊢
    exact ⟨_, hmem, rfl, hagain⟩
  | @exhausted st st' a ha hagain hover =>
    -- The call has ended after the deadline, so it began when there was something to be seen.
    have hmem : ⟨st, p.request⟩ ∈ callsOf [⟨st, p.request⟩] := List.mem_cons_self
    obtain ⟨hanswer, hnow⟩ := answer_of_prompt ha hc hlimit (hprompt ⟨st, p.request⟩ hmem)
    rw [hanswer] at hagain
    refine absurd hagain (hseen ⟨st, p.request⟩ hmem ?_)
    dsimp only [Occasion.begun]
    omega
  | interrupted ha hagain hbefore hnap =>
    cases answer_of_rest hnap hc
  | next ha hagain hbefore hnap hrest ih =>
    rw [callsOf_request, callsOf_nap] at hprompt hseen ⊢
    obtain ⟨o, ho, hsettles⟩ := ih hc (fun o ho => hprompt o (List.mem_cons_of_mem _ ho))
      fun o ho => hseen o (List.mem_cons_of_mem _ ho)
    exact ⟨o, List.mem_cons_of_mem _ ho, hsettles⟩

end Poll.Rounds

/-! ## Loops -/

/-- What the end of polling means for the step. -/
def Poll.outcome (p : Poll) (gaveUp : Failure) :
    Close p.call.Result → Except Failure p.call.Result
  | .settled ending => Run.outcome p.call p.limit ending
  | .exhausted => .error gaveUp
  | .interrupted => .error .cancelled

section Loops

variable {σ β : Type} {w : World σ} {st st' : State σ} {left : Nat}

/-- Nap, and go on with what is left of a budget then. -/
def napThen (loop : Nat → Program (Except Failure β)) (left : Nat) : Program (Except Failure β) :=
  Program.ask (.rest ⟨min pollInterval.nanos left⟩) >>= fun
    | none => pure (.error .cancelled)
    | some late => loop (afterNap left late)

theorem napThen_cut (loop : Nat → Program (Except Failure β))
    (h : respond w st (.rest ⟨min pollInterval.nanos left⟩) = ((none : Option Nat), st')) :
    (napThen loop left).occasions w st = [⟨st, .rest ⟨min pollInterval.nanos left⟩⟩] ∧
      (napThen loop left).run w st = (.error .cancelled, st') := by
  rw [napThen, occasions_bind, run_bind, run_ask, occasions_ask, h]
  exact ⟨rfl, rfl⟩

theorem napThen_some (loop : Nat → Program (Except Failure β)) {late : Nat}
    (h : respond w st (.rest ⟨min pollInterval.nanos left⟩) = (some late, st')) :
    (napThen loop left).occasions w st =
        ⟨st, .rest ⟨min pollInterval.nanos left⟩⟩ ::
          (loop (afterNap left late)).occasions w st' ∧
      (napThen loop left).run w st = (loop (afterNap left late)).run w st' := by
  rw [napThen, occasions_bind, run_bind, run_ask, occasions_ask, h]
  exact ⟨rfl, rfl⟩

/-- A loop that polls with a budget in nanoseconds: it makes the call, and goes on by how it ends.
It ends with a value, which what is left of the budget may be part of. -/
structure Poll.IsLoop (p : Poll) (gaveUp : Failure) (value : p.call.Result → Nat → β)
    (loop : Nat → Program (Except Failure β))
    (go : Nat → Except Failure p.call.Result × Nat → Program (Except Failure β)) : Prop where
  asks : ∀ remaining, loop remaining = p.session.timed p.call p.limit >>= go remaining
  settles : ∀ remaining spent ending, ¬ p.again ending →
    go remaining (Run.outcome p.call p.limit ending, spent) =
      pure ((Run.outcome p.call p.limit ending).map (value · (remaining - spent)))
  stops : ∀ remaining spent ending, p.again ending → remaining - spent = 0 →
    go remaining (Run.outcome p.call p.limit ending, spent) = pure (.error gaveUp)
  naps : ∀ remaining spent ending, p.again ending → remaining - spent ≠ 0 →
    go remaining (Run.outcome p.call p.limit ending, spent) = napThen loop (remaining - spent)

namespace Poll.IsLoop

variable {p : Poll} {gaveUp : Failure} {value : p.call.Result → Nat → β}
  {loop : Nat → Program (Except Failure β)}
  {go : Nat → Except Failure p.call.Result × Nat → Program (Except Failure β)}

theorem once (h : p.IsLoop gaveUp value loop go) (remaining : Nat)
    {a : Ending p.call.Result × Nat} (ha : respond w st p.request = (a, st')) :
    (loop remaining).occasions w st = ⟨st, p.request⟩ ::
        (go remaining (Run.outcome p.call p.limit a.1, nanosOfMillis a.2)).occasions w st' ∧
      (loop remaining).run w st =
        (go remaining (Run.outcome p.call p.limit a.1, nanosOfMillis a.2)).run w st' := by
  rw [h.asks, run_bind, occasions_bind, occasions_timed, run_timed ha]
  exact ⟨rfl, rfl⟩

/-- Such a loop polls until the deadline that its budget is left for. -/
theorem rounds (h : p.IsLoop gaveUp value loop go) {deadline remaining : Nat}
    (hremaining : remaining = deadline - nanosOfMillis st.now) {e : Except Failure β}
    {last : State σ} (hrun : (loop remaining).run w st = (e, last)) :
    ∃ close, p.Rounds w deadline st ((loop remaining).occasions w st) close last ∧
      e = (p.outcome gaveUp close).map (value · (deadline - nanosOfMillis last.now)) := by
  induction remaining using Nat.strongRecOn generalizing st with
  | ind remaining ih =>
    cases ha : respond w st p.request with
    | mk a st' =>
      have hleft : remaining - nanosOfMillis a.2 = deadline - nanosOfMillis st'.now := by
        rw [hremaining, (now_of_call ha).1, nanosOfMillis_add, Nat.sub_sub]
      obtain ⟨hoccasions, hgo⟩ := h.once remaining ha
      rw [hgo] at hrun
      rw [hoccasions]
      by_cases hagain : p.again a.1
      · by_cases hover : remaining - nanosOfMillis a.2 = 0
        · rw [h.stops remaining _ a.1 hagain hover] at hrun ⊢
          obtain ⟨rfl, rfl⟩ := Prod.mk.inj hrun
          refine ⟨.exhausted, .exhausted ha hagain ?_, rfl⟩
          exact Nat.sub_eq_zero_iff_le.1 (hleft.symm.trans hover)
        · have hbefore : nanosOfMillis st'.now < deadline := by omega
          rw [h.naps remaining _ a.1 hagain hover, hleft] at hrun ⊢
          cases hnap : respond w st' (napUntil deadline (nanosOfMillis st'.now)) with
          | mk answer st'' =>
            cases answer with
            | none =>
              obtain ⟨hoccasions, hcut⟩ := napThen_cut loop hnap
              obtain ⟨rfl, rfl⟩ := Prod.mk.inj (hcut.symm.trans hrun)
              rw [hoccasions]
              exact ⟨.interrupted, .interrupted ha hagain hbefore hnap, rfl⟩
            | some late =>
              obtain ⟨hoccasions, hrest⟩ := napThen_some loop hnap
              rw [hoccasions]
              have hlt : afterNap (deadline - nanosOfMillis st'.now) late < remaining := by
                rw [← hleft]
                exact Nat.lt_of_lt_of_le (afterNap_lt hover late) (Nat.sub_le _ _)
              have hafter : afterNap (deadline - nanosOfMillis st'.now) late =
                  deadline - nanosOfMillis st''.now := by
                obtain ⟨rfl, hnow⟩ := (now_of_rest hnap).2 late rfl
                rw [afterNap, Nat.add_zero, hnow, nanosOfMillis_add, Nat.sub_sub]
              obtain ⟨close, hrounds, hresult⟩ := ih _ hlt hafter (hrest.symm.trans hrun)
              exact ⟨close, .next ha hagain hbefore hnap hrounds, hresult⟩
      · rw [h.settles remaining _ a.1 hagain, hleft] at hrun ⊢
        obtain ⟨rfl, rfl⟩ := Prod.mk.inj hrun
        exact ⟨.settled a.1, .settled ha hagain, rfl⟩

end Poll.IsLoop

end Loops

namespace Session

variable (s : Session)

/-- A look for an element is made again if the element is not there. -/
def looking (l : Locator) : Poll where
  session := s
  call := .find l
  limit := s.limits.script
  again ending := ∃ what, ending = .answered (.error (.notFound what))

/-- The text of an element is read again if it does not hold the awaited one. -/
def reading (element : Handle) (text : String) : Poll where
  session := s
  call := .textOf element
  limit := s.limits.script
  again ending := ∃ actual, ending = .answered (.ok actual) ∧ Text.contains text actual = false

/-- The failure of a search whose time is over. -/
def lost (l : Locator) : Failure :=
  .notFound (l.text ++ " (waited " ++ s.limits.elementWait.text ++ "s)")

theorem isLoop_locateWithin (l : Locator) :
    ∃ go, (s.looking l).IsLoop (s.lost l) Prod.mk (s.locateWithin l) go := by
  refine ⟨_, fun remaining => locateWithin.eq_1 s l remaining, ?_, ?_, ?_⟩
  · intro remaining spent ending hagain
    cases ending with
    | answered result =>
      cases result with
      | ok element => rfl
      | error fault =>
        cases fault with
        | notFound what => exact absurd ⟨what, rfl⟩ hagain
        | timedOut what => rfl
        | broken what gone => rfl
    | late => rfl
    | cancelled => rfl
  · rintro remaining spent ending ⟨what, rfl⟩ hover
    exact dif_pos hover
  · rintro remaining spent ending ⟨what, rfl⟩ hover
    exact dif_neg hover

theorem isLoop_readWithin (l : Locator) (text : String) (element : Handle) :
    ∃ go, (s.reading element text).IsLoop
      (.timeout (.awaiting text l) s.limits.elementWait.inSeconds) (fun _ _ => ())
      (s.readWithin l text element) go := by
  refine ⟨_, fun remaining => readWithin.eq_1 s l text element remaining, ?_, ?_, ?_⟩
  · intro remaining spent ending hagain
    cases ending with
    | answered result =>
      cases result with
      | ok actual =>
        cases hcontains : Text.contains text actual with
        | true => exact if_pos hcontains
        | false => exact absurd ⟨actual, rfl, hcontains⟩ hagain
      | error fault => cases fault <;> rfl
    | late => rfl
    | cancelled => rfl
  · rintro remaining spent ending ⟨actual, rfl, hlacks⟩ hover
    exact (if_neg (Bool.eq_false_iff.1 hlacks)).trans (dif_pos hover)
  · rintro remaining spent ending ⟨actual, rfl, hlacks⟩ hover
    exact (if_neg (Bool.eq_false_iff.1 hlacks)).trans (dif_neg hover)

end Session

end Run
end Walkthrough
