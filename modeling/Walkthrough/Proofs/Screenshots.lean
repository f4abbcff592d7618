import Walkthrough.Proofs.Artifacts
import Walkthrough.Proofs.Recordings
import Walkthrough.Proofs.Trials

/-!
# Walkthrough.Proofs.Screenshots

How many screenshots are taken of a step, and which of them are kept.

What is wanted depends on the attempt alone: of one that failed and is followed by another, a
screenshot of the failure; of the last one, also the screenshot that the step or the policy asks for
at the end. `Trials.length_screenshotsOf` sums that up over the attempts.

* `ends_screenshot`: a screenshot is one call, and it is kept if the browser and the store both
  answer well.
* `IsTrial.shot`: which attempts are photographed.
* `screenshots_of_runStep`: the number of screenshots of a step, and its artifacts.
-/

namespace Walkthrough
namespace Run

open Browser Report

/-! ## Calls -/

def Request.isScreenshot (r : Request) : Bool :=
  match r.call? with
  | some (_, .screenshot) => true
  | _ => false

def Event.isScreenshot : Event → Bool
  | .called _ .screenshot => true
  | _ => false

/-- The calls of a course that take a picture of the page. -/
def screenshotsOf (xs : List Exchange) : List Exchange := xs.filter (·.request.isScreenshot)

section Calls

variable {xs ys : List Exchange}

@[simp] theorem screenshotsOf_nil : screenshotsOf [] = [] := rfl

@[simp] theorem screenshotsOf_append :
    screenshotsOf (xs ++ ys) = screenshotsOf xs ++ screenshotsOf ys :=
  List.filter_append xs ys

theorem screenshotsOf_cons_of_not {x : Exchange} (h : x.request.isScreenshot = false) :
    screenshotsOf (x :: xs) = screenshotsOf xs :=
  List.filter_cons_of_neg (Bool.eq_false_iff.1 h)

theorem screenshotsOf_eq_nil (h : ∀ x ∈ xs, x.request.isScreenshot = false) :
    screenshotsOf xs = [] :=
  List.filter_eq_nil_iff.2 fun x hx => Bool.eq_false_iff.1 (h x hx)

theorem Ends.screenshotsOf_eq_nil {α : Type} {p : Program α} {a : α} (h : Ends p xs a)
    (hp : p.Asks fun r => r.isScreenshot = false) : screenshotsOf xs = [] :=
  Run.screenshotsOf_eq_nil (h.asks hp)

theorem Request.IsOnPage.not_isScreenshot {session : Nat} {r : Request} (h : r.IsOnPage session) :
    r.isScreenshot = false := by
  cases r with
  | call s c limit =>
    have hc := h.2
    cases c <;> first | rfl | cases hc
  | rest span => rfl
  | _ => exact h.elim

/-- A request that may go unmade when the run is cancelled is no screenshot. -/
def Request.IsSure (r : Request) : Prop := ∀ s limit, r ≠ .call s .screenshot limit

theorem Request.isSure_of_not_isScreenshot {r : Request} (h : r.isScreenshot = false) :
    r.IsSure := by
  rintro s limit rfl
  cases h

theorem Exchange.Leaves.countP_screenshot {x : Exchange} {es : List Event} (h : x.Leaves es)
    (hsure : x.request.IsSure) : es.countP Event.isScreenshot = (screenshotsOf [x]).length := by
  cases h with
  | uncalled s c limit spent =>
    cases c <;> first | rfl | exact absurd rfl (hsure s limit)
  | called s c limit a => cases c <;> rfl
  | shielded s c limit a => cases c <;> rfl
  | _ => rfl

/-- The record tells the same screenshots. -/
theorem Recounts.countP_screenshot {es : List Event} (h : Recounts xs es)
    (hsure : ∀ x ∈ xs, x.request.IsSure) :
    es.countP Event.isScreenshot = (screenshotsOf xs).length := by
  induction h with
  | nil => rfl
  | @cons x xs es fs hx _ ih =>
    have hxs := ih fun y hy => hsure y (List.mem_cons_of_mem x hy)
    rw [List.countP_append, hx.countP_screenshot (hsure x List.mem_cons_self), hxs,
      ← List.length_append, ← screenshotsOf_append, List.singleton_append]

end Calls

end Run

/-! ## Captures -/

namespace Capture.Recorder

open Browser Report Run

variable {r : Recorder} {xs : List Exchange}

/-- A screenshot of an attempt: the browser is asked for it once, and it is kept if there is one and
the store takes it. -/
inductive IsPicture (r : Recorder) (reason : Reason) (stepId attempt : Nat) :
    List Exchange → Option Artifact → Prop where
  | missed {answer : Option (Except Browser.Fault ByteArray)} : given? answer = none →
      IsPicture r reason stepId attempt [⟨.shielded r.session .screenshot r.limit, answer⟩] none
  | taken {bytes : ByteArray} {moment : Moment} {key : Key} {path? : Option String} :
      key = ⟨.screenshot, reason, r.scenario, some stepId, some attempt, moment.wall⟩ →
      IsPicture r reason stepId attempt
        [⟨.shielded r.session .screenshot r.limit,
            (some (.ok bytes) : Option (Except Browser.Fault ByteArray))⟩,
          ⟨.now, moment⟩, ⟨.store key bytes, path?⟩]
        (path?.map key.artifact)

theorem ends_screenshot {reason : Reason} {stepId attempt : Nat} {shot? : Option Artifact}
    (h : Ends (r.screenshot reason stepId attempt) xs shot?) :
    IsPicture r reason stepId attempt xs shot? := by
  obtain ⟨bytes?, _, zs, hcall, h₁, rfl⟩ := ends_bind.1 h
  obtain ⟨answer, rfl, hgiven⟩ := ends_tryCall hcall
  cases bytes? with
  | none =>
    obtain ⟨rfl, rfl⟩ := ends_pure.1 h₁
    exact .missed hgiven.symm
  | some bytes =>
    obtain ⟨moment, _, h₂, rfl⟩ := ends_ask_bind.1 h₁
    obtain ⟨path?, _, h₃, rfl⟩ := ends_ask_bind.1 h₂
    obtain ⟨rfl, rfl⟩ := ends_pure.1 h₃
    match answer, hgiven with
    | some (.ok _), rfl => exact .taken rfl

theorem IsPicture.length_screenshotsOf {reason : Reason} {stepId attempt : Nat}
    {shot? : Option Artifact} (h : IsPicture r reason stepId attempt xs shot?) :
    (screenshotsOf xs).length = 1 := by
  cases h <;> rfl

theorem IsPicture.kind {reason : Reason} {stepId attempt : Nat} {shot? : Option Artifact}
    (h : IsPicture r reason stepId attempt xs shot?) : ∀ a ∈ shot?, a.kind = .screenshot := by
  cases h with
  | missed _ => exact nofun
  | @taken bytes moment key path? hkey =>
    intro a ha
    obtain ⟨path, -, rfl⟩ := Option.map_eq_some_iff.1 ha
    rw [hkey]
    rfl

theorem IsPicture.isSure {reason : Reason} {stepId attempt : Nat} {shot? : Option Artifact}
    (h : IsPicture r reason stepId attempt xs shot?) : ∀ x ∈ xs, x.request.IsSure := by
  cases h <;> simp [Request.IsSure]

/-- No screenshot is taken for a recording. -/
theorem allows_unphotographed (r : Recorder) :
    r.AllowsRecordings fun q => q.isScreenshot = false where
  now := rfl
  store _ _ _ := rfl
  start := rfl
  stop := rfl

end Capture.Recorder

namespace Run

open Browser Report Capture.Recorder

/-! ## Attempts -/

/-- Why an attempt is photographed, if it is. -/
def Trial.reason (t : Trial) : Capture.Reason :=
  if t.failure?.isNone then .stepPassed else .stepFailed

namespace Performer

/-- Is a screenshot of every attempt that fails wanted? -/
def wantsFailures (p : Performer) : Bool := p.recorder.policy.screenshotOnFailure

/-- Is a screenshot of the end of a step wanted, however it ends? -/
def wantsEnd (p : Performer) (step : Scenario.Step) : Bool :=
  step.screenshot || p.recorder.policy.screenshotOnStep

def wantsShot (p : Performer) (step : Scenario.Step) (t : Trial) : Bool :=
  (t.failure?.isSome && p.wantsFailures) || (!t.again && p.wantsEnd step)

section Trials

variable {p : Performer} {step : Scenario.Step} {left number : Nat} {t : Trial} {ts : List Trial}

theorem IsTrial.shot (h : IsTrial p step left number t) :
    if p.wantsShot step t then IsPicture p.recorder t.reason step.id number t.shooting t.shot?
    else t.shooting = [] ∧ t.shot? = none := by
  cases h with
  | passed _ hshot =>
    unfold Capture.Recorder.passed at hshot
    split at hshot
    · next hwants =>
      rw [if_pos (by simpa [wantsShot, Trial.failure?, wantsEnd] using hwants)]
      exact ends_screenshot hshot
    · next hwants =>
      rw [if_neg (by simpa [wantsShot, Trial.failure?, wantsEnd] using hwants)]
      exact ends_pure.1 hshot
  | failed _ _ hshot =>
    unfold Capture.Recorder.failed at hshot
    split at hshot
    · next hwants =>
      rw [if_pos (by simpa [wantsShot, Trial.failure?, wantsFailures, wantsEnd] using hwants)]
      exact ends_screenshot hshot
    · next hwants =>
      rw [if_neg (by simpa [wantsShot, Trial.failure?, wantsFailures, wantsEnd] using hwants)]
      exact ends_pure.1 hshot

/-- On the page and between attempts no screenshot is taken. -/
theorem IsTrial.unphotographed (h : IsTrial p step left number t) :
    ∀ x ∈ t.acting ++ t.asking, x.request.isScreenshot = false := by
  have hacting := h.acts.asks (p.session.isOnPage_execute step)
  have hasking : ∀ x ∈ t.asking, x.request.isScreenshot = false := by
    cases h with
    | passed _ _ => exact List.forall_mem_nil _
    | @failed _ _ _ f _ _ _ hretry _ =>
      have hasks : (mayRetry f left step.id (number + 1)).Asks fun r => r.isScreenshot = false :=
        asks_mayRetry (fun _ _ => rfl) f left step.id (number + 1)
      exact hretry.asks hasks
  exact List.forall_mem_append.2 ⟨fun x hx => (hacting x hx).not_isScreenshot, hasking⟩

theorem IsTrial.screenshotsOf_exchanges (h : IsTrial p step left number t) :
    screenshotsOf t.exchanges = screenshotsOf t.shooting := by
  rw [Trial.exchanges, ← List.append_assoc, screenshotsOf_append,
    screenshotsOf_eq_nil h.unphotographed, List.nil_append]

theorem IsTrial.isSure (h : IsTrial p step left number t) :
    ∀ x ∈ t.exchanges, x.request.IsSure := by
  have hshooting : ∀ x ∈ t.shooting, x.request.IsSure := by
    have hshot := h.shot
    split at hshot
    · exact hshot.isSure
    · rw [hshot.1]
      exact List.forall_mem_nil _
  rw [Trial.exchanges, ← List.append_assoc]
  exact List.forall_mem_append.2
    ⟨fun x hx => Request.isSure_of_not_isScreenshot (h.unphotographed x hx), hshooting⟩

theorem IsTrial.kind_of_shot (h : IsTrial p step left number t) {a : Artifact}
    (ha : t.shot? = some a) : a.kind = .screenshot := by
  have hshot := h.shot
  split at hshot
  · exact hshot.kind a ha
  · rw [hshot.2] at ha
    cases ha

theorem IsTrial.length_screenshotsOf (h : IsTrial p step left number t) :
    (screenshotsOf t.exchanges).length = if p.wantsShot step t then 1 else 0 := by
  have hshot := h.shot
  rw [h.screenshotsOf_exchanges]
  split at hshot
  · next hwants =>
    rw [if_pos hwants]
    exact hshot.length_screenshotsOf
  · next hnot =>
    rw [if_neg hnot, hshot.1]
    rfl

/-- Of every attempt but the last the failure is photographed, if that is wanted. -/
theorem Trials.length_screenshotsOf (h : Trials p step left number ts)
    (ht : ts.getLast? = some t) :
    (screenshotsOf (ts.flatMap Trial.exchanges)).length =
      (if p.wantsFailures then ts.length - 1 else 0) + (if p.wantsShot step t then 1 else 0) := by
  induction h with
  | last htrial _ =>
    rw [List.getLast?_singleton] at ht
    obtain rfl := Option.some.inj ht
    simp [htrial.length_screenshotsOf]
  | @more left number t' ts htrial hagain hts ih =>
    rw [List.getLast?_cons_of_ne_nil hts.ne_nil] at ht
    obtain ⟨-, ⟨f, hf, -⟩, -⟩ := htrial.of_again hagain
    have hfirst : (screenshotsOf t'.exchanges).length = if p.wantsFailures then 1 else 0 := by
      rw [htrial.length_screenshotsOf]
      simp [wantsShot, Trial.failure?, hf, hagain]
    have hpos : 0 < ts.length := List.length_pos_iff.2 hts.ne_nil
    rw [List.flatMap_cons, screenshotsOf_append, List.length_append, hfirst, ih ht,
      List.length_cons]
    split <;> omega

end Trials

/-! ## A step -/

section Step

variable {p : Performer} {before after cancelled : Bool} {step : Scenario.Step}
  {xs : List Exchange} {ts : List Trial} {r : StepResult}

/-- The screenshots of a step: of which attempts they are, how many there are, and which of them are
kept. -/
structure IsGallery (p : Performer) (step : Scenario.Step) (xs : List Exchange) (ts : List Trial)
    (r : StepResult) : Prop where
  /-- There are no other screenshots than those of the attempts. -/
  calls : screenshotsOf xs = ts.flatMap fun t => screenshotsOf t.shooting
  each : ∀ i t, ts[i]? = some t →
    if p.wantsShot step t then
      IsPicture p.recorder t.reason step.id (i + 1) t.shooting t.shot? ∧
        (screenshotsOf t.shooting).length = 1
    else t.shooting = [] ∧ t.shot? = none
  unattempted : r.attempts = 0 → screenshotsOf xs = []
  passed : r.status = .passed → (screenshotsOf xs).length =
    (if p.wantsFailures then r.attempts - 1 else 0) + (if p.wantsEnd step then 1 else 0)
  failed : r.status = .failed → 1 ≤ r.attempts → (screenshotsOf xs).length =
    if p.wantsFailures then r.attempts else if p.wantsEnd step then 1 else 0
  /-- Those are kept that the browser gave and the store took. -/
  kept : r.artifacts.filter (·.kind = .screenshot) = ts.filterMap (·.shot?)
  recorded : ∀ es, Recounts xs es → es.countP Event.isScreenshot = (screenshotsOf xs).length

namespace IsHistory

theorem exists_isTrial (h : IsHistory p before step xs cancelled ts r after) {t : Trial}
    (ht : t ∈ ts) : ∃ left number, IsTrial p step left number t := by
  obtain ⟨i, hi⟩ := List.mem_iff_getElem?.1 ht
  obtain ⟨left, -, htrial, -⟩ := h.isTrial hi
  exact ⟨left, _, htrial⟩

/-- Outside the attempts no screenshot is taken. -/
theorem screenshotsOf_eq (h : IsHistory p before step xs cancelled ts r after) :
    screenshotsOf xs = screenshotsOf (ts.flatMap Trial.exchanges) := by
  obtain ⟨started, ended, vs, segment?, hxs, hcut, -⟩ := h.course
  have hvs : screenshotsOf vs = [] :=
    hcut.screenshotsOf_eq_nil (p.recorder.allows_unphotographed.asks_cut before step.id)
  have hended : screenshotsOf [⟨.now, ended⟩] = [] := rfl
  rw [hxs, screenshotsOf_cons_of_not rfl, screenshotsOf_cons_of_not rfl, screenshotsOf_append,
    screenshotsOf_append, hvs, hended, List.append_nil, List.append_nil]

theorem isSure (h : IsHistory p before step xs cancelled ts r after) :
    ∀ x ∈ xs, x.request.IsSure := by
  obtain ⟨started, ended, vs, segment?, hxs, hcut, -⟩ := h.course
  have hvs := hcut.asks (p.recorder.allows_unphotographed.asks_cut before step.id)
  intro x hx
  simp only [hxs, List.mem_cons, List.mem_append, List.mem_flatMap, List.not_mem_nil,
    or_false] at hx
  rcases hx with rfl | rfl | ⟨t, ht, hx⟩ | hx | rfl
  · exact Request.isSure_of_not_isScreenshot rfl
  · exact Request.isSure_of_not_isScreenshot rfl
  · obtain ⟨left, number, htrial⟩ := h.exists_isTrial ht
    exact htrial.isSure x hx
  · exact Request.isSure_of_not_isScreenshot (hvs x hx)
  · exact Request.isSure_of_not_isScreenshot rfl

/-- The last attempt decides about the step. -/
theorem exists_last (h : IsHistory p before step xs cancelled ts r after) (hne : ts ≠ []) :
    ∃ t, ts.getLast? = some t ∧ t.again = false ∧
      r.status = if t.failure?.isNone then .passed else .failed := by
  have htrials := h.trials
  split at htrials
  · exact absurd htrials hne
  · obtain ⟨t, ht⟩ := Option.isSome_iff_exists.1 (List.getLast?_isSome.2 hne)
    obtain ⟨-, -, -, hagain⟩ := htrials.get_last ht
    refine ⟨t, ht, hagain, ?_⟩
    rw [h.status, failureOf?, ht]

/-- How many screenshots there are is told by the last attempt. -/
theorem length_screenshotsOf (h : IsHistory p before step xs cancelled ts r after) {t : Trial}
    (ht : ts.getLast? = some t) :
    (screenshotsOf xs).length =
      (if p.wantsFailures then r.attempts - 1 else 0) + (if p.wantsShot step t then 1 else 0) := by
  have htrials := h.trials
  rw [h.screenshotsOf_eq, h.attempts]
  split at htrials
  · rw [htrials] at ht
    cases ht
  · exact htrials.length_screenshotsOf ht

/-- What is left over of the artifacts is a recording. -/
theorem filter_artifacts (h : IsHistory p before step xs cancelled ts r after) :
    r.artifacts.filter (·.kind = .screenshot) = ts.filterMap (·.shot?) := by
  obtain ⟨-, -, vs, segment?, -, hcut, hartifacts⟩ := h.course
  have hshots : ∀ a ∈ ts.filterMap (·.shot?), decide (a.kind = .screenshot) = true := by
    intro a ha
    obtain ⟨t, ht, hshot⟩ := List.mem_filterMap.1 ha
    obtain ⟨left, number, htrial⟩ := h.exists_isTrial ht
    exact decide_eq_true (htrial.kind_of_shot hshot)
  have hsegment : ∀ a ∈ segment?.toList, ¬ decide (a.kind = .screenshot) = true := by
    intro a ha
    obtain ⟨hkind, -⟩ := (artifacts_of_cut hcut).2 a (Option.mem_toList.1 ha)
    simp [hkind]
  rw [hartifacts, List.filter_append, List.filter_eq_self.2 hshots,
    List.filter_eq_nil_iff.2 hsegment, List.append_nil]

/-- A step that passed did so with its last attempt, which is photographed at the end of the step. -/
theorem length_of_passed (h : IsHistory p before step xs cancelled ts r after)
    (hpassed : r.status = .passed) : (screenshotsOf xs).length =
      (if p.wantsFailures then r.attempts - 1 else 0) + (if p.wantsEnd step then 1 else 0) := by
  have hne : ts ≠ [] := by
    rintro rfl
    rw [h.status] at hpassed
    cases hpassed
  obtain ⟨t, ht, hagain, hstatus⟩ := h.exists_last hne
  have hok : t.failure? = none := by
    rw [hpassed] at hstatus
    simpa using hstatus
  rw [h.length_screenshotsOf ht]
  simp [wantsShot, hagain, hok]

/-- All attempts of a step that failed are failures. The last one is photographed as such or, if
failures are not wanted, at the end of the step. -/
theorem length_of_failed (h : IsHistory p before step xs cancelled ts r after)
    (hfailed : r.status = .failed) (hpos : 1 ≤ r.attempts) : (screenshotsOf xs).length =
      if p.wantsFailures then r.attempts else if p.wantsEnd step then 1 else 0 := by
  have hne : ts ≠ [] := List.ne_nil_of_length_pos (h.attempts ▸ hpos)
  obtain ⟨t, ht, hagain, hstatus⟩ := h.exists_last hne
  have herror : t.failure?.isSome = true := by
    rw [hfailed] at hstatus
    cases hresult : t.failure? with
    | none => simp [hresult] at hstatus
    | some f => rfl
  rw [h.length_screenshotsOf ht]
  cases hfailures : p.wantsFailures with
  | true => simpa [wantsShot, herror, hfailures] using Nat.sub_add_cancel hpos
  | false => simp [wantsShot, hfailures, hagain]

theorem isGallery (h : IsHistory p before step xs cancelled ts r after) :
    IsGallery p step xs ts r where
  calls := by
    rw [h.screenshotsOf_eq, screenshotsOf, List.filter_flatMap]
    refine List.flatMap_congr fun t ht => ?_
    obtain ⟨left, number, htrial⟩ := h.exists_isTrial ht
    exact htrial.screenshotsOf_exchanges
  each i t hi := by
    obtain ⟨left, -, htrial, -⟩ := h.isTrial hi
    have hshot := htrial.shot
    split at hshot
    · next hwants =>
      rw [if_pos hwants]
      exact ⟨hshot, hshot.length_screenshotsOf⟩
    · next hnot =>
      rw [if_neg hnot]
      exact hshot
  unattempted hzero := by
    have hnil : ts = [] := List.length_eq_zero_iff.1 (h.attempts ▸ hzero)
    rw [h.screenshotsOf_eq, hnil]
    rfl
  passed := h.length_of_passed
  failed := h.length_of_failed
  kept := h.filter_artifacts
  recorded _ hes := hes.countP_screenshot h.isSure

end IsHistory

/-- Whatever a step is answered, and whenever the run is cancelled: as many screenshots are taken as
its attempts, its result and the policy ask for, at most one of each attempt, and those that the
browser gives and the store takes are its screenshots. -/
theorem screenshots_of_runStep (p : Performer) (before : Bool) (step : Scenario.Step) :
    (∀ (σ : Type) (w : World σ) (st : State σ),
      Ends (p.runStep before step) ((p.runStep before step).trace w st)
        ((p.runStep before step).run w st).1) ∧
    ∀ xs r after, Ends (p.runStep before step) xs (r, after) →
      ∃ cancelled ts, IsHistory p before step xs cancelled ts r after ∧
        IsGallery p step xs ts r := by
  refine ⟨fun σ w st => ends_trace w _ st, fun xs r after h => ?_⟩
  obtain ⟨cancelled, ts, hhistory⟩ := exists_history h
  exact ⟨cancelled, ts, hhistory, hhistory.isGallery⟩

end Step

namespace Retried

/-- Both attempts are photographed; the picture of the first does not come in time. -/
theorem screenshots_of_exchanges :
    Ends (retrier.runStep false step) exchanges (result, false) ∧
      (∃ cancelled ts, IsHistory retrier false step exchanges cancelled ts result false ∧
        IsGallery retrier step exchanges ts result) ∧
      (screenshotsOf exchanges).length = 2 ∧ result.artifacts.length = 1 :=
  ⟨ends_exchanges, (screenshots_of_runStep retrier false step).2 _ _ _ ends_exchanges, rfl, rfl⟩

end Retried

end Performer
end Run
end Walkthrough
