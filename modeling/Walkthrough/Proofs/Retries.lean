import Walkthrough.Proofs.Limits
import Walkthrough.Proofs.Trials

/-!
# Walkthrough.Proofs.Retries

When the attempts of a step begin. Whether another attempt follows is decided as the last one
returns, before its screenshot is taken, and the next one begins when the screenshot is over. What
is decided can therefore be outdated: a run that is cancelled during the screenshot still goes into
the next attempt, which then does nothing on the page and fails.

* `late_execute`: an attempt that begins when the run is cancelled fails and makes no call.
* `begins_of_runStep`: every attempt but the last begins before the run is cancelled, and so does
  the last one, unless the run is cancelled during the screenshot before it.
* `begun_late_of_picture`: that does happen.
-/

namespace Walkthrough
namespace Run

open Browser Report

/-! ## A run that is cancelled -/

section Cancelled

variable {σ α : Type} {w : World σ} {st st' : State σ} {xs : List Exchange}

theorem heed_of_cancelled (w : World σ) (hc : st.cancelled = true) (r : Request) :
    (st.heed w r).cancelled = true ∧ (st.heed w r).notes = st.notes := by
  unfold State.heed
  obtain ⟨stops, world⟩ := w.interrupts r st.world
  cases stops with
  | false => exact ⟨hc, rfl⟩
  | true => simp [State.stopIf, State.stop, hc]

/-- What an attempt asks for is answered at once, and nothing happens. -/
theorem respond_of_cancelled (w : World σ) (hc : st.cancelled = true) {session : Nat} {r : Request}
    (hr : r.IsAttempt session) : Late r (respond w st r).1 0 ∧
      (respond w st r).2.cancelled = true ∧ (respond w st r).2.notes = st.notes := by
  obtain ⟨hheed, hnotes⟩ := heed_of_cancelled w hc r
  cases r with
  | call s c limit =>
    have hdone : respond w st (.call s c limit) =
        ((.cancelled, 0), st.heed w (.call s c limit)) := by
      simp only [respond, begin, serve, hheed, if_true]
      rfl
    rw [hdone]
    exact ⟨⟨rfl, rfl⟩, hheed, hnotes⟩
  | rest span =>
    have hdone : respond w st (.rest span) = (none, st.heed w (.rest span)) := by
      simp only [respond, begin, serve, hheed, if_true]
      rfl
    rw [hdone]
    exact ⟨⟨rfl, rfl⟩, hheed, hnotes⟩
  | _ => exact hr.elim

theorem World.Leads.late (h : w.Leads st xs st') (hc : st.cancelled = true) {session : Nat}
    (hxs : ∀ x ∈ xs, x.request.IsAttempt session) :
    (∀ x ∈ xs, Late x.request x.answer 0) ∧ st'.notes = st.notes := by
  induction h with
  | nil st => exact ⟨List.forall_mem_nil _, rfl⟩
  | cons r _ ih =>
    obtain ⟨hlate, hc', hnotes⟩ := respond_of_cancelled w hc (hxs _ List.mem_cons_self)
    obtain ⟨hrest, hnotes'⟩ := ih hc' fun x hx => hxs x (List.mem_cons_of_mem _ hx)
    exact ⟨List.forall_mem_cons.2 ⟨hlate, hrest⟩, hnotes'.trans hnotes⟩

/-- An attempt that begins when the run is cancelled fails, and does nothing on the page. -/
theorem late_execute (s : Session) (step : Scenario.Step) {e : Except Failure Unit}
    (hleads : w.Leads st xs st') (hends : Ends (s.execute step).run xs e)
    (hc : st.cancelled = true) : e = .error .cancelled ∧ st'.notes = st.notes := by
  obtain ⟨hlate, hnotes⟩ := hleads.late hc (hends.asks (s.asks_execute step))
  exact ⟨s.givesUp_execute step 0 e (hends.laps hlate), hnotes⟩

end Cancelled

/-! ## Attempts -/

/-- The states through which a world leads in an attempt. -/
structure Trial.Spans {σ : Type} (w : World σ) (t : Trial) (begun returned decided ended : State σ) :
    Prop where
  acting : w.Leads begun t.acting returned
  asking : w.Leads returned t.asking decided
  shooting : w.Leads decided t.shooting ended

namespace Performer

section Begins

variable {σ : Type} {w : World σ} {p : Performer} {before after cancelled : Bool}
  {step : Scenario.Step} {xs : List Exchange} {ts : List Trial} {r : StepResult} {t : Trial}
  {entered st : State σ}

/-- When the attempt at a place of the order begins, and how things stand when it is decided
whether it is the last. -/
structure BeginsRightly (p : Performer) (ts : List Trial) (i : Nat) (t : Trial)
    (begun returned decided : State σ) : Prop where
  first : i = 0 → begun.cancelled = false
  /-- Another attempt follows only if the run was not cancelled as this one returned. -/
  followed : i + 1 < ts.length → decided.cancelled = false
  /-- One that begins when the run is cancelled does nothing, and is the last. -/
  late : begun.cancelled = true →
    i + 1 = ts.length ∧ t.result = .error .cancelled ∧ returned.notes = begun.notes
  /-- Without screenshots of failures no time goes by between two attempts. -/
  unshot : p.recorder.policy.screenshotOnFailure = false → begun.cancelled = false

theorem exists_spans (hleads : w.Leads entered (ts.flatMap Trial.exchanges) st) {i : Nat}
    (hi : ts[i]? = some t) :
    ∃ begun returned decided ended,
      w.Leads entered ((ts.take i).flatMap Trial.exchanges) begun ∧
      t.Spans w begun returned decided ended := by
  have hsplit : ts = ts.take i ++ t :: ts.drop (i + 1) := by
    obtain ⟨hlt, rfl⟩ := List.getElem?_eq_some_iff.1 hi
    simp
  rw [hsplit, List.flatMap_append, List.flatMap_cons] at hleads
  obtain ⟨begun, hbegun, hrest⟩ := leads_append.1 hleads
  obtain ⟨ended, hended, -⟩ := leads_append.1 hrest
  obtain ⟨returned, hacting, htail⟩ := leads_append.1 hended
  obtain ⟨decided, hasking, hshooting⟩ := leads_append.1 htail
  exact ⟨begun, returned, decided, ended, hbegun, hacting, hasking, hshooting⟩

/-- An attempt that another one follows, and takes no screenshot, ends as that is decided. -/
theorem uncancelled_of_unshot (hhistory : IsHistory p before step xs cancelled ts r after)
    (hpolicy : p.recorder.policy.screenshotOnFailure = false) {i : Nat} (hi : i + 1 < ts.length)
    {begun : State σ} (hleads : w.Leads entered ((ts.take (i + 1)).flatMap Trial.exchanges) begun) :
    begun.cancelled = false := by
  have hlt : i < ts.length := by omega
  obtain ⟨left, -, htrial, hagain⟩ := hhistory.isTrial (List.getElem?_eq_getElem hlt)
  have hmore := hagain.2 hi
  obtain ⟨-, ⟨f, hf, -⟩, hasking⟩ := htrial.of_again hmore
  have hshooting : ts[i].shooting = [] := by
    have hshoots := htrial.shoots_of_error hf
    rw [hmore, Capture.Recorder.failed, hpolicy] at hshoots
    exact (ends_pure.1 hshoots).1
  rw [List.take_add_one, List.getElem?_eq_getElem hlt] at hleads
  simp only [Option.toList_some, List.flatMap_append, List.flatMap_singleton, Trial.exchanges,
    hasking, hshooting, List.append_nil, ← List.append_assoc] at hleads
  exact cancelled_of_leads_token hleads

theorem beginsRightly (hhistory : IsHistory p before step xs cancelled ts r after)
    (hentered : entered.cancelled = cancelled) {i : Nat} (hi : ts[i]? = some t)
    {begun returned decided ended : State σ}
    (hbegun : w.Leads entered ((ts.take i).flatMap Trial.exchanges) begun)
    (hspans : t.Spans w begun returned decided ended) :
    BeginsRightly p ts i t begun returned decided := by
  obtain ⟨left, -, htrial, hagain⟩ := hhistory.isTrial hi
  obtain ⟨hlt, -⟩ := List.getElem?_eq_some_iff.1 hi
  have hfirst : i = 0 → begun.cancelled = false := by
    rintro rfl
    rw [List.take_zero, List.flatMap_nil] at hbegun
    rw [leads_nil.1 hbegun, hentered]
    exact Bool.eq_false_iff.2 fun hc => List.ne_nil_of_length_pos hlt (hhistory.eq_nil_iff.2 hc)
  refine ⟨hfirst, fun hmore => ?_, fun hc => ?_, fun hpolicy => ?_⟩
  · obtain ⟨-, -, hasking⟩ := htrial.of_again (hagain.2 hmore)
    have hleads := hspans.asking
    rw [hasking, ← List.nil_append [_]] at hleads
    exact cancelled_of_leads_token hleads
  · obtain ⟨hresult, hnotes⟩ := late_execute p.session step hspans.acting htrial.acts hc
    refine ⟨?_, hresult, hnotes⟩
    -- A step that was cancelled is not attempted again.
    have hnot : ¬ i + 1 < ts.length := by
      intro hmore
      obtain ⟨-, ⟨f, hf, hretryable⟩, -⟩ := htrial.of_again (hagain.2 hmore)
      rw [hresult] at hf
      cases hf
      cases hretryable
    omega
  · cases i with
    | zero => exact hfirst rfl
    | succ i => exact uncancelled_of_unshot hhistory hpolicy hlt hbegun

/-- Whatever the world and whenever it cancels the run: another attempt follows only if the run was
not cancelled as the one before returned. Every attempt begins before the run is cancelled, but for
the last, before which the run may be cancelled during a screenshot; it does nothing then. -/
theorem begins_of_runStep (w : World σ) (st : State σ) (p : Performer) (before : Bool)
    (step : Scenario.Step) :
    ∃ cancelled ts entered,
      IsHistory p before step ((p.runStep before step).trace w st) cancelled ts
        ((p.runStep before step).run w st).1.1 ((p.runStep before step).run w st).1.2 ∧
      w.Leads st (((p.runStep before step).trace w st).take 2) entered ∧
      entered.cancelled = cancelled ∧
      ∀ i t, ts[i]? = some t → ∃ begun returned decided ended,
        w.Leads entered ((ts.take i).flatMap Trial.exchanges) begun ∧
        t.Spans w begun returned decided ended ∧
        BeginsRightly p ts i t begun returned decided := by
  obtain ⟨cancelled, ts, hhistory⟩ := exists_history (ends_trace w (p.runStep before step) st)
  obtain ⟨started, ended, vs, segment?, hxs, -, -⟩ := hhistory.course
  have htwo : (p.runStep before step).trace w st =
      [⟨.now, started⟩] ++ [⟨.token (.step step.id), cancelled⟩] ++
        (ts.flatMap Trial.exchanges ++ (vs ++ [⟨.now, ended⟩])) := hxs
  have hleads := leads_trace w (p.runStep before step) st
  rw [htwo] at hleads
  obtain ⟨entered, hentered, hrest⟩ := leads_append.1 hleads
  obtain ⟨attempted, hattempted, -⟩ := leads_append.1 hrest
  have htoken := cancelled_of_leads_token hentered
  refine ⟨cancelled, ts, entered, hhistory, ?_, htoken, fun i t hi => ?_⟩
  · rw [hxs]
    exact hentered
  · obtain ⟨begun, returned, decided, ended, hbegun, hspans⟩ := exists_spans hattempted hi
    exact ⟨begun, returned, decided, ended, hbegun, hspans,
      beginsRightly hhistory htoken hi hbegun hspans⟩

end Begins

/-! The browser refuses a page, and somebody cancels the run as the browser takes the picture of
that. The step is attempted a second time, and a second picture is taken. -/

namespace Interrupted

open Retried (retrier step)

def picture : ByteArray := "PNG".toUTF8

def interrupting : World Unit where
  opening _ world := (.atOnce (.ok ()), world)
  reaction _ c world :=
    match c with
    | .screenshot => (⟨.ok picture, 0, true⟩, world)
    | _ => (.atOnce (.error (.broken "gone" true)), world)
  settled _ _ world := world
  storing _ _ world := (.atOnce (some "mem"), world)
  interrupts _ world := (false, world)
  wall _ := default

def start : State Unit := .initial () none

/-- The screenshot of an attempt. -/
def shot (attempt : Nat) : Artifact :=
  Capture.Key.artifact ⟨.screenshot, .stepFailed, "A", some 1, some attempt, default⟩ "mem"

/-- How things stand when the step has begun. -/
def entered : State Unit :=
  (respond interrupting (respond interrupting start .now).2 (.token (.step step.id))).2

def first : Attempted × State Unit := (retrier.tryOnce step 1 1).run interrupting entered

def second : Attempted × State Unit := (retrier.tryOnce step 0 2).run interrupting first.2

def result : StepResult :=
  ⟨1, "s", .navigate, .failed, 2, 0, [shot 1, shot 2], some (.ofFailure .cancelled), default⟩

/-- The second attempt begins when the run is cancelled, and it is counted and photographed. -/
theorem begun_late_of_picture :
    entered.cancelled = false ∧ first.1 = ⟨some (.browser "gone" true), true, some (shot 1)⟩ ∧
      first.2.cancelled = true ∧ second.1 = ⟨some .cancelled, false, some (shot 2)⟩ ∧
      ((retrier.runStep false step).run interrupting start).1 = (result, false) :=
  ⟨rfl, rfl, rfl, rfl, rfl⟩

end Interrupted

end Performer
end Run
end Walkthrough
