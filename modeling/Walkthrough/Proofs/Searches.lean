import Mathlib.Data.List.Permutation
import Walkthrough.Proofs.Conduct
import Walkthrough.Proofs.Polling

/-!
# Walkthrough.Proofs.Searches

What an attempt sees of a page that changes while it is looked at.

* `search_of_locate`: an element that is looked for is found as soon as it is there, and is given up
  only when it was not there until the deadline.
* `reading_of_waitForText`: a text is awaited in it until the same deadline, however long the search
  took, and is read once at least.
-/

namespace Walkthrough
namespace Run

open Browser

section Searches

variable {σ : Type}

/-- The moment until which elements are waited for from a state on, in nanoseconds. -/
def Session.deadline (s : Session) (st : State σ) : Nat :=
  nanosOfMillis st.now + s.limits.elementWait.nanos

variable {s : Session} {l : Locator} {w : World σ} {st : State σ}

theorem ceilMillis_deadline :
    (Duration.mk (s.deadline st)).ceilMillis = st.now + s.limits.elementWait.ceilMillis := by
  simp only [Session.deadline, nanosOfMillis, Duration.ofMillis, Duration.ceilMillis]
  omega

/-! ## Looking for an element -/

theorem occasions_locate (s : Session) (l : Locator) (w : World σ) (st : State σ) :
    (s.locate l).run.occasions w st =
      (s.locateWithin l s.limits.elementWait.nanos).occasions w st := by
  refine (occasions_bind w (s.locateWithin l s.limits.elementWait.nanos) _ st).trans ?_
  cases ((s.locateWithin l s.limits.elementWait.nanos).run w st).1 with
  | ok found => exact List.append_nil _
  | error f => exact List.append_nil _

theorem run_locate (s : Session) (l : Locator) (w : World σ) (st : State σ) :
    (s.locate l).run.run w st =
      (((s.locateWithin l s.limits.elementWait.nanos).run w st).1.map Prod.fst,
        ((s.locateWithin l s.limits.elementWait.nanos).run w st).2) := by
  refine (run_bind w (s.locateWithin l s.limits.elementWait.nanos) _ st).trans ?_
  cases ((s.locateWithin l s.limits.elementWait.nanos).run w st).1 with
  | ok found => rfl
  | error f => rfl

/-- A search polls. What is left of its budget is the time until the deadline. -/
theorem rounds_locate (s : Session) (l : Locator) (w : World σ) (st : State σ) :
    ∃ close, (s.looking l).Rounds w (s.deadline st) st ((s.locate l).run.occasions w st) close
        ((s.locate l).run.run w st).2 ∧
      ((s.locate l).run.run w st).1 = (s.looking l).outcome (s.lost l) close ∧
      (s.locateWithin l s.limits.elementWait.nanos).run w st =
        (((s.locate l).run.run w st).1.map
          fun h => (h, s.deadline st - nanosOfMillis ((s.locate l).run.run w st).2.now),
        ((s.locate l).run.run w st).2) := by
  obtain ⟨go, hloop⟩ := s.isLoop_locateWithin l
  have hremaining : s.limits.elementWait.nanos = s.deadline st - nanosOfMillis st.now :=
    (Nat.add_sub_cancel_left _ _).symm
  rw [occasions_locate, run_locate]
  cases hrun : (s.locateWithin l s.limits.elementWait.nanos).run w st with
  | mk e last =>
    obtain ⟨close, hrounds, rfl⟩ := hloop.rounds hremaining hrun
    refine ⟨close, hrounds, ?_, ?_⟩
    · cases (s.looking l).outcome (s.lost l) close <;> rfl
    · cases (s.looking l).outcome (s.lost l) close <;> rfl

/-- A search that ends with an element that is not there has used up its time. -/
theorem exhausted_of_lost {deadline : Nat} {os : List (Occasion σ)} {last : State σ} {what : String}
    {close : Close (s.looking l).call.Result}
    (h : (s.looking l).Rounds w deadline st os close last)
    (hlost : (s.looking l).outcome (s.lost l) close = .error (.notFound what)) :
    close = .exhausted := by
  cases close with
  | settled ending => exact absurd ⟨what, eq_missed_of_outcome hlost⟩ h.not_again
  | exhausted => rfl
  | interrupted => cases hlost

theorem isMiss_of_again {o : Occasion σ} (ho : o.request = (s.looking l).request)
    (hagain : (s.looking l).again (respond w o.state (s.looking l).request).1.1) :
    (o.exchange w).IsMiss l := by
  obtain ⟨st, r⟩ := o
  obtain rfl : r = (s.looking l).request := ho
  obtain ⟨what, hending⟩ := hagain
  refine ⟨s.id, s.limits.script, what, (respond w st (s.looking l).request).1.2, ?_⟩
  exact congrArg (fun ending => (⟨.call s.id (.find l) s.limits.script,
    ((ending, (respond w st (s.looking l).request).1.2) : Ending Handle × Nat)⟩ : Exchange)) hending

/-- How an element is looked for from a state on: the occasions of the search, what it ends with,
and in which state. -/
structure IsSearch (w : World σ) (s : Session) (l : Locator) (st : State σ)
    (os : List (Occasion σ)) (e : Except Failure Handle) (last : State σ) : Prop where
  /-- No other call is made than to find it. -/
  calls : ∀ o ∈ callsOf os, o.request = .call s.id (.find l) s.limits.script
  /-- It comes to an end after so many calls, -/
  length_le : (callsOf os).length ≤ (s.limits.elementWait.ceilMillis + 249) / 250 + 1
  /-- and before so much time has gone by. -/
  now_le : last.now ≤ st.now + s.limits.elementWait.ceilMillis + s.limits.script.ceilMillis
  /-- No call is made after the deadline, -/
  begun_le : ∀ o ∈ callsOf os, o.begun ≤ st.now + s.limits.elementWait.ceilMillis
  /-- and between two calls there is at most a quarter of a second, -/
  idle : (callsOf os).IsChain fun x y => x.ended w ≤ y.begun ∧ y.begun ≤ x.ended w + 250
  /-- which are spent with naps, each of them before the deadline and no longer than to it. -/
  naps : ∀ o ∈ os, o.isCall = false → nanosOfMillis o.begun < s.deadline st ∧
    o.request = .rest ⟨min pollInterval.nanos (s.deadline st - nanosOfMillis o.begun)⟩
  /-- It is given up only if it was not there until the deadline. -/
  missed : ∀ what, e = .error (.notFound what) → (∀ o ∈ callsOf os, (o.exchange w).IsMiss l) ∧
    ∃ o, (callsOf os).getLast? = some o ∧ s.deadline st ≤ nanosOfMillis (o.ended w)
  /-- If the run is not cancelled, every answer comes in time, and the element is there from some
  moment on, which leaves time for one call before the deadline, then it is found. -/
  found : last.cancelled = false → ∀ (longest : Duration) (appears : Nat),
    longest.nanos ≤ s.limits.script.nanos → appears + longest.nanos ≤ s.deadline st →
    (∀ o ∈ callsOf os,
      nanosOfMillis ((s.looking l).reactionTo w o.state).delay ≤ longest.nanos) →
    (∀ o ∈ callsOf os, nanosOfMillis o.begun < appears →
      ∃ what, ((s.looking l).reactionTo w o.state).result = .error (.notFound what)) →
    (∀ o ∈ callsOf os, appears ≤ nanosOfMillis o.begun →
      ∃ h, ((s.looking l).reactionTo w o.state).result = .ok h) →
    ∃ o ∈ callsOf os, appears ≤ nanosOfMillis o.begun ∧
      ∃ h, ((s.looking l).reactionTo w o.state).result = .ok h ∧ e = .ok h

/-- An element is found as soon as it is there, and is given up only when it was not there until the
deadline. -/
theorem search_of_locate (w : World σ) (s : Session) (l : Locator) (st : State σ) :
    IsSearch w s l st ((s.locate l).run.occasions w st) ((s.locate l).run.run w st).1
      ((s.locate l).run.run w st).2 := by
  obtain ⟨close, hrounds, hresult, -⟩ := rounds_locate s l w st
  generalize (s.locate l).run.occasions w st = os at hrounds
  generalize (s.locate l).run.run w st = b at hrounds hresult
  obtain ⟨e, last⟩ := b
  have hle : st.now ≤ (Duration.mk (s.deadline st)).ceilMillis := by
    rw [ceilMillis_deadline]
    exact Nat.le_add_right _ _
  refine ⟨hrounds.requests, ?_, ?_, ?_, hrounds.idle, hrounds.naps, ?_, ?_⟩
  · have hlength := hrounds.length_le
    rwa [ceilMillis_deadline, Nat.add_sub_cancel_left] at hlength
  · have hnow := hrounds.now_le
    rwa [Nat.max_eq_right hle, ceilMillis_deadline] at hnow
  · have hbegun := hrounds.begun_le
    rwa [Nat.max_eq_right hle, ceilMillis_deadline] at hbegun
  · rintro what rfl
    obtain rfl := exhausted_of_lost hrounds hresult.symm
    obtain ⟨hagain, hover⟩ := hrounds.of_exhausted
    exact ⟨fun o ho => isMiss_of_again (hrounds.requests o ho) (hagain o ho), hover⟩
  · intro hc longest appears hlimit happears hprompt hmissing hthere
    obtain ⟨o, ho, rfl, hagain⟩ := hrounds.settles hc hlimit happears hprompt fun o ho hlater => by
      obtain ⟨h, hfound⟩ := hthere o ho hlater
      rw [hfound]
      rintro ⟨what, hmiss⟩
      cases hmiss
    have hlater : appears ≤ nanosOfMillis o.begun := by
      by_contra hearlier
      obtain ⟨what, hmiss⟩ := hmissing o ho (Nat.lt_of_not_le hearlier)
      exact hagain ⟨what, congrArg Ending.answered hmiss⟩
    obtain ⟨h, hfound⟩ := hthere o ho hlater
    rw [hfound] at hresult
    exact ⟨o, ho, hlater, h, hfound, hresult⟩

end Searches

/-! On a page that is slow to load, an element is there at the second look, and its text at the
second reading. -/

namespace Loading

def visitor : Session := ⟨0, ⟨.ofMillis 1000, .ofMillis 600, .ofMillis 1000⟩⟩

def greeting : Locator := ⟨.id, "greeting"⟩

def element : Handle := ⟨"e"⟩

/-- The page counts the calls. Every answer takes ten milliseconds. -/
def loading : World Nat where
  opening _ calls := (.atOnce (.ok ()), calls)
  reaction _ c calls :=
    match c with
    | .find _ =>
      (⟨if calls = 0 then .error (.notFound "greeting") else .ok element, 10, false⟩, calls + 1)
    | .textOf _ => (⟨.ok (if calls = 2 then "" else "Hello"), 10, false⟩, calls + 1)
    | _ => (⟨.error (.broken "gone" false), 10, false⟩, calls)
  settled _ _ calls := calls
  storing _ _ calls := (.atOnce none, calls)
  interrupts _ calls := (false, calls)
  wall _ := default

/-- A look for the element. -/
def look (st : State Nat) : Occasion Nat :=
  ⟨st, .call 0 (.find greeting) visitor.limits.script⟩

def nap (st : State Nat) : Occasion Nat := ⟨st, .rest pollInterval⟩

def start : State Nat := .initial 0 none

def missed : State Nat := (look start).after loading

def rested : State Nat := (nap missed).after loading

def found : State Nat := (look rested).after loading

theorem occasions_looks : (visitor.locate greeting).run.occasions loading start =
    [look start, nap missed, look rested] := by cbv

theorem run_looks : (visitor.locate greeting).run.run loading start = (.ok element, found) := by cbv

/-- The element is there after a tenth of a second. -/
theorem found_at_second_look :
    callsOf ((visitor.locate greeting).run.occasions loading start) = [look start, look rested] ∧
      ∃ o ∈ callsOf ((visitor.locate greeting).run.occasions loading start),
        nanosOfMillis 100 ≤ nanosOfMillis o.begun ∧
        ∃ h, ((visitor.looking greeting).reactionTo loading o.state).result = .ok h ∧
          ((visitor.locate greeting).run.run loading start).1 = .ok h := by
  have hcalls : callsOf ((visitor.locate greeting).run.occasions loading start) =
      [look start, look rested] := by
    rw [occasions_looks]
    rfl
  refine ⟨hcalls, (search_of_locate loading visitor greeting start).found ?_ (.ofMillis 10)
    (nanosOfMillis 100) (by decide) (by decide) ?_ ?_ ?_⟩
  · rw [run_looks]
    rfl
  · rw [hcalls]
    exact List.forall_mem_cons.2 ⟨by cbv, List.forall_mem_singleton.2 (by cbv)⟩
  · rw [hcalls]
    refine List.forall_mem_cons.2 ⟨fun _ => ⟨"greeting", by cbv⟩, List.forall_mem_singleton.2 ?_⟩
    intro hearly
    exact absurd hearly (by decide)
  · rw [hcalls]
    refine List.forall_mem_cons.2 ⟨?_, List.forall_mem_singleton.2 fun _ => ⟨element, by cbv⟩⟩
    intro hlate
    exact absurd hlate (by decide)

end Loading

/-! ## Awaiting a text -/

section Awaiting

variable {σ : Type} {s : Session} {l : Locator} {w : World σ} {st : State σ}

/-- How a text is awaited in an element that was found: the occasions from then on, what it ends
with, and in which state. The search for the element began in the first of the states. -/
structure IsReading (w : World σ) (s : Session) (l : Locator) (text : String) (st : State σ)
    (element : Handle) (found : State σ) (os : List (Occasion σ)) (e : Except Failure Unit)
    (last : State σ) : Prop where
  /-- The text is read at once, even if there is no time left, -/
  first : ∃ others, callsOf os = ⟨found, .call s.id (.textOf element) s.limits.script⟩ :: others
  /-- and no other call is made than to read it, -/
  calls : ∀ o ∈ callsOf os, o.request = .call s.id (.textOf element) s.limits.script
  /-- nor does the search leave more time for it than there was for both. -/
  begun_le : ∀ o ∈ callsOf os,
    o.begun ≤ max found.now (st.now + s.limits.elementWait.ceilMillis)
  /-- It is given up only if the text was not there until the deadline. -/
  lacked : ∀ seconds, e = .error (.timeout (.awaiting text l) seconds) →
    (∀ o ∈ callsOf os, ∃ actual spent,
      o.exchange w = .answered s.id (.textOf element) s.limits.script actual spent ∧
        Text.contains text actual = false) ∧
    ∃ o, (callsOf os).getLast? = some o ∧ s.deadline st ≤ nanosOfMillis (o.ended w)
  /-- If the run is not cancelled, every reading succeeds in time, and the text is there from some
  moment on, which leaves time for one reading before the deadline, then it is seen. -/
  seen : last.cancelled = false → ∀ (longest : Duration) (appears : Nat),
    longest.nanos ≤ s.limits.script.nanos → appears + longest.nanos ≤ s.deadline st →
    (∀ o ∈ callsOf os,
      nanosOfMillis ((s.reading element text).reactionTo w o.state).delay ≤ longest.nanos) →
    (∀ o ∈ callsOf os, ∃ actual : String,
      ((s.reading element text).reactionTo w o.state).result = .ok actual ∧
        (appears ≤ nanosOfMillis o.begun → Text.contains text actual = true)) →
    e = .ok ()

/-- How a text is awaited from a state on. -/
structure IsAwaiting (w : World σ) (s : Session) (l : Locator) (text : String) (st : State σ)
    (os : List (Occasion σ)) (e : Except Failure Unit) (last : State σ) : Prop where
  /-- Without the element nothing is read, and it is not the text that is not there. -/
  lost : ∀ f found, (s.locate l).run.run w st = (.error f, found) →
    os = (s.locate l).run.occasions w st ∧ e = .error f ∧ last = found ∧
      ∀ seconds, f ≠ .timeout (.awaiting text l) seconds
  read : ∀ element found, (s.locate l).run.run w st = (.ok element, found) →
    ∃ reads, os = (s.locate l).run.occasions w st ++ reads ∧
      IsReading w s l text st element found reads e last

section Reading

variable {text : String} {element : Handle}

theorem outcome_ne_awaiting {α : Type} {c : Call} {limit : Duration} {ending : Ending α}
    {seconds : Binary64} :
    outcome c limit ending ≠ .error (.timeout (.awaiting text l) seconds) := by
  match ending with
  | .answered (.ok _) => exact nofun
  | .answered (.error (.notFound _)) => exact nofun
  | .answered (.error (.timedOut _)) => exact nofun
  | .answered (.error (.broken _ _)) => exact nofun
  | .late => exact nofun
  | .cancelled => exact nofun

/-- Of a search no text is awaited. -/
theorem ne_awaiting_of_locate {f : Failure} {found : State σ}
    (h : (s.locate l).run.run w st = (.error f, found)) (seconds : Binary64) :
    f ≠ .timeout (.awaiting text l) seconds := by
  obtain ⟨close, -, hresult, -⟩ := rounds_locate s l w st
  rw [h] at hresult
  rintro rfl
  cases close with
  | settled ending => exact outcome_ne_awaiting hresult.symm
  | exhausted => cases hresult
  | interrupted => cases hresult

/-- A text that is given up was awaited until the time was over. -/
theorem exhausted_of_unread {seconds seconds' : Binary64}
    {close : Close (s.reading element text).call.Result}
    (h : ((s.reading element text).outcome (.timeout (.awaiting text l) seconds) close).map
      (fun _ => ()) = .error (.timeout (.awaiting text l) seconds')) :
    close = .exhausted := by
  cases close with
  | settled ending =>
    cases hending : (s.reading element text).outcome (.timeout (.awaiting text l) seconds)
      (.settled ending) with
    | ok actual =>
      rw [hending] at h
      cases h
    | error f =>
      rw [hending] at h
      cases h
      exact absurd hending outcome_ne_awaiting
  | exhausted => rfl
  | interrupted => cases h

theorem lacks_of_again {o : Occasion σ} (ho : o.request = (s.reading element text).request)
    (hagain : (s.reading element text).again
      (respond w o.state (s.reading element text).request).1.1) :
    ∃ actual spent, o.exchange w =
        .answered s.id (.textOf element) s.limits.script actual spent ∧
      Text.contains text actual = false := by
  obtain ⟨st, r⟩ := o
  obtain rfl : r = (s.reading element text).request := ho
  obtain ⟨actual, hending, hlacks⟩ := hagain
  refine ⟨actual, (respond w st (s.reading element text).request).1.2, ?_, hlacks⟩
  exact congrArg (fun ending => (⟨.call s.id (.textOf element) s.limits.script,
    ((ending, (respond w st (s.reading element text).request).1.2) : Ending String × Nat)⟩ :
      Exchange)) hending

theorem isReading_of_readWithin {found last : State σ} {e : Except Failure Unit}
    (hrun : (s.readWithin l text element (s.deadline st - nanosOfMillis found.now)).run w found =
      (e, last)) :
    IsReading w s l text st element found
      ((s.readWithin l text element (s.deadline st - nanosOfMillis found.now)).occasions w found)
      e last := by
  obtain ⟨go, hloop⟩ := s.isLoop_readWithin l text element
  obtain ⟨close, hrounds, rfl⟩ := hloop.rounds rfl hrun
  refine ⟨hrounds.head, hrounds.requests, ?_, ?_, ?_⟩
  · have hbegun := hrounds.begun_le
    rwa [ceilMillis_deadline] at hbegun
  · intro seconds hunread
    obtain rfl := exhausted_of_unread hunread
    obtain ⟨hagain, hover⟩ := hrounds.of_exhausted
    exact ⟨fun o ho => lacks_of_again (hrounds.requests o ho) (hagain o ho), hover⟩
  · intro hc longest appears hlimit happears hprompt hread
    obtain ⟨o, ho, rfl, -⟩ := hrounds.settles hc hlimit happears hprompt fun o ho hlater => by
      obtain ⟨actual, hactual, hcontains⟩ := hread o ho
      rw [hactual]
      rintro ⟨actual', heq, hlacks⟩
      cases heq
      exact Bool.noConfusion (hlacks.symm.trans (hcontains hlater))
    obtain ⟨actual, hactual, -⟩ := hread o ho
    rw [hactual]
    rfl

theorem awaitText_of_lost (text : String) {f : Failure} {found : State σ}
    (h : (s.locateWithin l s.limits.elementWait.nanos).run w st = (.error f, found)) :
    (s.awaitText l text).run.occasions w st =
        (s.locateWithin l s.limits.elementWait.nanos).occasions w st ∧
      (s.awaitText l text).run.run w st = (.error f, found) := by
  constructor
  · refine (occasions_bind w (s.locateWithin l s.limits.elementWait.nanos) _ st).trans ?_
    rw [h]
    exact List.append_nil _
  · refine (run_bind w (s.locateWithin l s.limits.elementWait.nanos) _ st).trans ?_
    rw [h]
    rfl

/-- The text is read with what is left of the budget of the search. -/
theorem awaitText_of_located (text : String) {left : Nat} {found : State σ}
    (h : (s.locateWithin l s.limits.elementWait.nanos).run w st = (.ok (element, left), found)) :
    (s.awaitText l text).run.occasions w st =
        (s.locateWithin l s.limits.elementWait.nanos).occasions w st ++
          (s.readWithin l text element left).occasions w found ∧
      (s.awaitText l text).run.run w st = (s.readWithin l text element left).run w found := by
  constructor
  · refine (occasions_bind w (s.locateWithin l s.limits.elementWait.nanos) _ st).trans ?_
    rw [h]
  · refine (run_bind w (s.locateWithin l s.limits.elementWait.nanos) _ st).trans ?_
    rw [h]

/-- A text is awaited in an element that is found, until the deadline of the search. -/
theorem reading_of_waitForText (w : World σ) (s : Session) (l : Locator) (text : String)
    (st : State σ) :
    IsAwaiting w s l text st ((s.perform (.waitForText l text)).run.occasions w st)
      ((s.perform (.waitForText l text)).run.run w st).1
      ((s.perform (.waitForText l text)).run.run w st).2 := by
  obtain ⟨-, -, -, hwithin⟩ := rounds_locate s l w st
  constructor
  · intro f found hlost
    rw [hlost] at hwithin
    obtain ⟨hoccasions, hrun⟩ := awaitText_of_lost text hwithin
    rw [Session.perform, hoccasions, hrun, occasions_locate]
    exact ⟨rfl, rfl, rfl, ne_awaiting_of_locate hlost⟩
  · intro element found hfound
    rw [hfound] at hwithin
    obtain ⟨hoccasions, hrun⟩ := awaitText_of_located text hwithin
    rw [Session.perform, hoccasions, hrun, occasions_locate]
    exact ⟨_, rfl, isReading_of_readWithin (Prod.eta _).symm⟩

end Reading

end Awaiting

namespace Loading

/-- A reading of the text. -/
def reading (st : State Nat) : Occasion Nat :=
  ⟨st, .call 0 (.textOf element) visitor.limits.script⟩

def unread : State Nat := (reading found).after loading

def awaited : State Nat := (nap unread).after loading

def read : State Nat := (reading awaited).after loading

theorem occasions_readings :
    (visitor.perform (.waitForText greeting "Hello")).run.occasions loading start =
      [look start, nap missed, look rested, reading found, nap unread, reading awaited] := by cbv

theorem run_readings :
    (visitor.perform (.waitForText greeting "Hello")).run.run loading start = (.ok (), read) := by
  cbv

/-- The text is there after three tenths. -/
theorem read_at_second_reading :
    ∃ reads, callsOf reads = [reading found, reading awaited] ∧
      (visitor.perform (.waitForText greeting "Hello")).run.occasions loading start =
        (visitor.locate greeting).run.occasions loading start ++ reads ∧
      ((visitor.perform (.waitForText greeting "Hello")).run.run loading start).1 = .ok () := by
  obtain ⟨reads, hoccasions, hreading⟩ :=
    (reading_of_waitForText loading visitor greeting "Hello" start).read element found run_looks
  have hreads : reads = [reading found, nap unread, reading awaited] := by
    rw [occasions_readings, occasions_looks] at hoccasions
    exact (@List.append_cancel_left _ [look start, nap missed, look rested] _ _ hoccasions).symm
  have hcalls : callsOf reads = [reading found, reading awaited] := by
    rw [hreads]
    rfl
  refine ⟨reads, hcalls, hoccasions, hreading.seen ?_ (.ofMillis 10) (nanosOfMillis 300)
    (by decide) (by decide) ?_ ?_⟩
  · rw [run_readings]
    rfl
  · rw [hcalls]
    exact List.forall_mem_cons.2 ⟨by cbv, List.forall_mem_singleton.2 (by cbv)⟩
  · rw [hcalls]
    refine List.forall_mem_cons.2 ⟨⟨"", by cbv, fun hlate => ?_⟩,
      List.forall_mem_singleton.2 ⟨"Hello", by cbv, fun _ => by cbv⟩⟩
    exact absurd hlate (by decide)

end Loading

end Run
end Walkthrough
