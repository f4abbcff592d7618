import Walkthrough.Proofs.Steps

/-!
# Walkthrough.Proofs.Trials

The attempts of a step, one by one, whatever the browser, the store and the clock answer and
whenever the run is cancelled.

A `Trial` is one attempt: the action on the page, the question whether the run is cancelled when
another attempt may help, and the screenshot. `Trials` is the loop that makes them: another attempt
follows exactly if the last one asks for it, and each has one attempt less left than the one before.

* `ends_mayRetry`: when another attempt is allowed.
* `ends_tryStep`: the attempts of a step go through trials one after the other.
* `exists_history`: the course of a whole step, with its trials and its result.
* `attempts_of_runStep`: how many attempts there are, why there are no more, and what the result of
  the step says of them.
-/

namespace Walkthrough
namespace Run

open Browser Report

/-- One attempt of a step: what was asked in each of its parts, and what came of it. -/
structure Trial where
  acting : List Exchange
  result : Except Failure Unit
  /-- The question whether the run is cancelled. -/
  asking : List Exchange
  again : Bool
  /-- The screenshot. -/
  shooting : List Exchange
  shot? : Option Artifact

namespace Trial

def exchanges (t : Trial) : List Exchange := t.acting ++ (t.asking ++ t.shooting)

def failure? (t : Trial) : Option Failure :=
  match t.result with
  | .ok _ => none
  | .error f => some f

end Trial

/-- Why a step failed, if it did: its last attempt failed, or there was none. -/
def failureOf? (ts : List Trial) : Option Failure :=
  match ts.getLast? with
  | none => some .cancelled
  | some t => t.failure?

namespace Performer

/-- An attempt with a number that may be followed by `left` others. -/
inductive IsTrial (p : Performer) (step : Scenario.Step) (left number : Nat) : Trial → Prop where
  | passed {xs zs : List Exchange} {shot? : Option Artifact} :
      Ends (p.session.execute step).run xs (.ok ()) →
      Ends (p.recorder.passed step.id step.screenshot number) zs shot? →
      IsTrial p step left number ⟨xs, .ok (), [], false, zs, shot?⟩
  | failed {xs ys zs : List Exchange} {f : Failure} {again : Bool} {shot? : Option Artifact} :
      Ends (p.session.execute step).run xs (.error f) →
      Ends (mayRetry f left step.id (number + 1)) ys again →
      Ends (p.recorder.failed step.id step.screenshot number (!again)) zs shot? →
      IsTrial p step left number ⟨xs, .error f, ys, again, zs, shot?⟩

/-- The attempts of a step from one with a number on, when `left` more than one are allowed. -/
inductive Trials (p : Performer) (step : Scenario.Step) : Nat → Nat → List Trial → Prop where
  | last {left number : Nat} {t : Trial} :
      IsTrial p step left number t → t.again = false → Trials p step left number [t]
  | more {left number : Nat} {t : Trial} {ts : List Trial} :
      IsTrial p step (left + 1) number t → t.again = true → Trials p step left (number + 1) ts →
      Trials p step (left + 1) number (t :: ts)

section Trials

variable {p : Performer} {step : Scenario.Step} {xs : List Exchange} {left number : Nat}
  {t : Trial} {ts : List Trial}

/-! ## One attempt -/

/-- Another attempt is allowed if the failure may pass, an attempt is left, and the run is not
cancelled at that moment. -/
theorem ends_mayRetry {f : Failure} {id next : Nat} {again : Bool}
    (h : Ends (mayRetry f left id next) xs again) :
    if f.isRetryable = true ∧ left ≠ 0 then
      ∃ cancelled : Bool, xs = [⟨.token (.attempt id next), cancelled⟩] ∧ again = !cancelled
    else xs = [] ∧ again = false := by
  unfold mayRetry at h
  simp only [Bool.and_eq_true, bne_iff_ne] at h
  split at h
  · next hretry =>
    rw [if_pos hretry]
    obtain ⟨cancelled, _, h', rfl⟩ := ends_ask_bind.1 h
    obtain ⟨rfl, rfl⟩ := ends_pure.1 h'
    exact ⟨cancelled, rfl, rfl⟩
  · next hnot =>
    rw [if_neg hnot]
    exact ends_pure.1 h

theorem ends_tryOnce {once : Attempted} (h : Ends (p.tryOnce step left number) xs once) :
    ∃ t, IsTrial p step left number t ∧ xs = t.exchanges ∧
      once = ⟨t.failure?, t.again, t.shot?⟩ := by
  obtain ⟨e, us, _, hexecute, h₁, rfl⟩ := ends_bind.1 h
  cases e with
  | ok u =>
    obtain ⟨shot?, vs, _, hshot, h₂, rfl⟩ := ends_bind.1 h₁
    obtain ⟨rfl, rfl⟩ := ends_pure.1 h₂
    exact ⟨_, .passed hexecute hshot, by simp [Trial.exchanges], rfl⟩
  | error f =>
    obtain ⟨again, vs, _, hretry, h₂, rfl⟩ := ends_bind.1 h₁
    obtain ⟨shot?, ws, _, hshot, h₃, rfl⟩ := ends_bind.1 h₂
    obtain ⟨rfl, rfl⟩ := ends_pure.1 h₃
    exact ⟨_, .failed hexecute hretry hshot, by simp [Trial.exchanges], rfl⟩

namespace IsTrial

theorem acts (h : IsTrial p step left number t) :
    Ends (p.session.execute step).run t.acting t.result := by
  cases h with
  | passed hexecute _ => exact hexecute
  | failed hexecute _ _ => exact hexecute

theorem shoots_of_error (h : IsTrial p step left number t) {f : Failure}
    (hf : t.result = .error f) :
    Ends (p.recorder.failed step.id step.screenshot number (!t.again)) t.shooting t.shot? := by
  cases h with
  | passed _ _ => cases hf
  | failed _ _ hshot => exact hshot

/-- What is known of an attempt that asks for another. -/
theorem of_again (h : IsTrial p step left number t) (hagain : t.again = true) :
    left ≠ 0 ∧ (∃ f, t.result = .error f ∧ f.isRetryable = true) ∧
      t.asking = [⟨.token (.attempt step.id (number + 1)), false⟩] := by
  cases h with
  | passed _ _ => cases hagain
  | @failed _ ys _ f again _ _ hretry _ =>
    have hasked := ends_mayRetry hretry
    split at hasked
    · next hmay =>
      obtain ⟨cancelled, rfl, rfl⟩ := hasked
      have huncancelled : cancelled = false := by simpa using hagain
      subst huncancelled
      exact ⟨hmay.2, ⟨f, rfl, hmay.1⟩, rfl⟩
    · rw [hasked.2] at hagain
      cases hagain

/-- An attempt that asks for no other although its failure may pass: none is left, or the run is
cancelled. -/
theorem of_not_again (h : IsTrial p step left number t) (hagain : t.again = false) {f : Failure}
    (hf : t.result = .error f) (hretryable : f.isRetryable = true) :
    left = 0 ∨ t.asking = [⟨.token (.attempt step.id (number + 1)), true⟩] := by
  cases h with
  | passed _ _ => cases hf
  | failed _ hretry _ =>
    cases hf
    by_cases hleft : left = 0
    · exact .inl hleft
    · have hasked := ends_mayRetry hretry
      rw [if_pos ⟨hretryable, hleft⟩] at hasked
      obtain ⟨cancelled, rfl, rfl⟩ := hasked
      have hcancelled : cancelled = true := by simpa using hagain
      subst hcancelled
      exact .inr rfl

end IsTrial

/-! ## All attempts -/

/-- What is kept of attempts, the first of which has a number, besides earlier artifacts. -/
structure Keeps (number : Nat) (artifacts : List Artifact) (ts : List Trial) (tried : Tried) :
    Prop where
  attempts : tried.attempts + 1 = number + ts.length
  failure : tried.failure = failureOf? ts
  artifacts : tried.artifacts = artifacts ++ ts.filterMap (·.shot?)

theorem keeps_singleton (number : Nat) (artifacts : List Artifact) (t : Trial) :
    Keeps number artifacts [t] ⟨number, t.failure?, artifacts ++ t.shot?.toList⟩ := by
  refine ⟨rfl, rfl, ?_⟩
  cases hshot : t.shot? <;> simp [hshot]

theorem Keeps.cons {artifacts : List Artifact} {tried : Tried} (hne : ts ≠ [])
    (h : Keeps (number + 1) (artifacts ++ t.shot?.toList) ts tried) :
    Keeps number artifacts (t :: ts) tried := by
  refine ⟨?_, ?_, ?_⟩
  · have hlength := h.attempts
    simp only [List.length_cons]
    omega
  · rw [h.failure, failureOf?, failureOf?, List.getLast?_cons_of_ne_nil hne]
  · rw [h.artifacts, List.append_assoc, List.filterMap_cons]
    cases t.shot? <;> rfl

theorem Trials.ne_nil (h : Trials p step left number ts) : ts ≠ [] := by
  cases h <;> exact List.cons_ne_nil _ _

/-- The attempts of a step go through trials one after the other. -/
theorem ends_tryStep {artifacts : List Artifact} {tried : Tried}
    (h : Ends (p.tryStep step left number artifacts) xs tried) :
    ∃ ts, Trials p step left number ts ∧ xs = ts.flatMap Trial.exchanges ∧
      Keeps number artifacts ts tried := by
  induction left generalizing number artifacts xs with
  | zero =>
    obtain ⟨once, us, _, honce, h', rfl⟩ := ends_bind.1 h
    obtain ⟨t, ht, rfl, rfl⟩ := ends_tryOnce honce
    obtain ⟨rfl, rfl⟩ := ends_pure.1 h'
    -- With no attempt left, none is asked for.
    have hnot : t.again = false :=
      Bool.eq_false_iff.2 fun hagain => (ht.of_again hagain).1 rfl
    exact ⟨[t], .last ht hnot, by simp, keeps_singleton _ _ _⟩
  | succ left ih =>
    obtain ⟨once, us, vs, honce, h', rfl⟩ := ends_bind.1 h
    obtain ⟨t, ht, rfl, rfl⟩ := ends_tryOnce honce
    dsimp only at h'
    split at h'
    · next hagain =>
      obtain ⟨ts, hts, rfl, hkeeps⟩ := ih h'
      exact ⟨t :: ts, .more ht hagain hts, by simp, hkeeps.cons hts.ne_nil⟩
    · next hnot =>
      obtain ⟨rfl, rfl⟩ := ends_pure.1 h'
      exact ⟨[t], .last ht (Bool.eq_false_iff.2 hnot), by simp, keeps_singleton _ _ _⟩

/-- Every attempt has one less left than the one before, and asks for another unless it is the
last. -/
theorem Trials.get (h : Trials p step left number ts) {i : Nat} (hi : ts[i]? = some t) :
    ∃ left', left' + i = left ∧ IsTrial p step left' (number + i) t ∧
      (t.again = true ↔ i + 1 < ts.length) := by
  induction h generalizing i with
  | @last left number t' ht hnot =>
    obtain ⟨hlt, rfl⟩ := List.getElem?_eq_some_iff.1 hi
    have hzero : i = 0 := by simpa using hlt
    subst hzero
    exact ⟨left, rfl, ht, by simp [hnot]⟩
  | @more left number t' ts ht hagain hts ih =>
    cases i with
    | zero =>
      obtain rfl := Option.some.inj hi
      have hpos : 0 < ts.length := List.length_pos_iff.2 hts.ne_nil
      exact ⟨left + 1, rfl, ht, by simpa [hagain] using hpos⟩
    | succ i =>
      obtain ⟨left', hleft, ht', hlast⟩ := ih hi
      refine ⟨left', by omega, ?_, ?_⟩
      · rwa [Nat.add_assoc, Nat.add_comm 1 i] at ht'
      · rw [hlast, List.length_cons]
        omega

theorem Trials.get_last (h : Trials p step left number ts) (ht : ts.getLast? = some t) :
    ∃ left', left' + ts.length = left + 1 ∧
      IsTrial p step left' (number + ts.length - 1) t ∧ t.again = false := by
  rw [List.getLast?_eq_getElem?] at ht
  have hpos : 0 < ts.length := List.length_pos_iff.2 h.ne_nil
  obtain ⟨left', hleft, htrial, hlast⟩ := h.get ht
  refine ⟨left', by omega, ?_, ?_⟩
  · rwa [← Nat.add_sub_assoc hpos] at htrial
  · refine Bool.eq_false_iff.2 fun hagain => ?_
    have := hlast.1 hagain
    omega

theorem Trials.length_le (h : Trials p step left number ts) : ts.length ≤ left + 1 := by
  obtain ⟨t, ht⟩ := Option.isSome_iff_exists.1 (List.getLast?_isSome.2 h.ne_nil)
  obtain ⟨left', hleft, -, -⟩ := h.get_last ht
  omega

end Trials

/-! ## A step -/

section Step

/-- The course of a step and its result, told by its attempts. -/
structure IsHistory (p : Performer) (before : Bool) (step : Scenario.Step) (xs : List Exchange)
    (cancelled : Bool) (ts : List Trial) (r : StepResult) (after : Bool) : Prop where
  course : ∃ (started ended : Moment) (vs : List Exchange) (segment? : Option Artifact),
    xs = ⟨.now, started⟩ :: ⟨.token (.step step.id), cancelled⟩ ::
      (ts.flatMap Trial.exchanges ++ (vs ++ [⟨.now, ended⟩])) ∧
    Ends (p.recorder.cut before step.id) vs (segment?, after) ∧
    r.artifacts = ts.filterMap (·.shot?) ++ segment?.toList
  trials : if cancelled then ts = [] else Trials p step (maxAttempts p.retries - 1) 1 ts
  attempts : r.attempts = ts.length
  status : r.status = if (failureOf? ts).isNone then .passed else .failed
  error : r.error = (failureOf? ts).map .ofFailure

variable {p : Performer} {before after : Bool} {step : Scenario.Step} {xs : List Exchange}
  {cancelled : Bool} {ts : List Trial} {r : StepResult} {t : Trial}

theorem ends_tryUnless_trials {tried : Tried} (h : Ends (p.tryUnless cancelled step) xs tried) :
    ∃ ts, (if cancelled then ts = [] else Trials p step (maxAttempts p.retries - 1) 1 ts) ∧
      xs = ts.flatMap Trial.exchanges ∧ Keeps 1 [] ts tried := by
  cases cancelled with
  | true =>
    obtain ⟨rfl, rfl⟩ := ends_pure.1 h
    exact ⟨[], rfl, rfl, rfl, rfl, rfl⟩
  | false => exact ends_tryStep h

theorem exists_history (h : Ends (p.runStep before step) xs (r, after)) :
    ∃ cancelled ts, IsHistory p before step xs cancelled ts r after := by
  obtain ⟨started, _, h₁, rfl⟩ := ends_ask_bind.1 h
  obtain ⟨cancelled, _, h₂, rfl⟩ := ends_ask_bind.1 h₁
  obtain ⟨tried, us, _, htried, h₃, rfl⟩ := ends_bind.1 h₂
  obtain ⟨⟨segment?, recording⟩, vs, _, hcut, h₄, rfl⟩ := ends_bind.1 h₃
  obtain ⟨ended, _, h₅, rfl⟩ := ends_ask_bind.1 h₄
  obtain ⟨rfl, hr⟩ := ends_pure.1 h₅
  obtain ⟨rfl, rfl⟩ := Prod.mk.inj hr
  obtain ⟨ts, htrials, rfl, hkeeps⟩ := ends_tryUnless_trials htried
  refine ⟨cancelled, ts, ⟨started, ended, vs, segment?, rfl, hcut, ?_⟩, htrials, ?_, ?_, ?_⟩
  · simp [hkeeps.artifacts]
  · have hattempts := hkeeps.attempts
    dsimp only
    omega
  · simp [hkeeps.failure]
  · simp [hkeeps.failure]

namespace IsHistory

theorem eq_nil_iff (h : IsHistory p before step xs cancelled ts r after) :
    ts = [] ↔ cancelled = true := by
  have htrials := h.trials
  split at htrials
  · next hcancelled => simp [htrials, hcancelled]
  · next hnot => simp [htrials.ne_nil, hnot]

theorem isTrial (h : IsHistory p before step xs cancelled ts r after) {i : Nat}
    (hi : ts[i]? = some t) :
    ∃ left, left + i + 1 = maxAttempts p.retries ∧ IsTrial p step left (i + 1) t ∧
      (t.again = true ↔ i + 1 < ts.length) := by
  have htrials := h.trials
  split at htrials
  · subst htrials
    cases hi
  · obtain ⟨left, hleft, ht, hagain⟩ := htrials.get hi
    have hmax := one_le_maxAttempts p.retries
    exact ⟨left, by omega, Nat.add_comm 1 i ▸ ht, hagain⟩

theorem length_le (h : IsHistory p before step xs cancelled ts r after) :
    ts.length ≤ maxAttempts p.retries := by
  have htrials := h.trials
  split at htrials
  · subst htrials
    exact Nat.zero_le _
  · have hlength := htrials.length_le
    have hmax := one_le_maxAttempts p.retries
    omega

end IsHistory

/-- What the result of a step says of its attempts, and why there are no more of them. -/
structure IsTally (p : Performer) (step : Scenario.Step) (cancelled : Bool) (ts : List Trial)
    (r : StepResult) : Prop where
  executed : ∀ t ∈ ts, Ends (p.session.execute step).run t.acting t.result
  recorded : r.attempts = ts.length
  /-- The counter of the attempts stays in its range. -/
  bounded : ts.length ≤ min (p.retries + 1) attemptBound
  entered : ts = [] ↔ cancelled = true
  retried : ∀ i t, ts[i]? = some t → i + 1 < ts.length →
    ∃ f, t.result = .error f ∧ f.isRetryable = true
  passed : r.status = .passed ∧ r.error = none ↔ ∃ t, ts.getLast? = some t ∧ t.result = .ok ()
  failed : (¬ ∃ t, ts.getLast? = some t ∧ t.result = .ok ()) → r.status = .failed ∧
    (ts = [] ∧ r.error = some (.ofFailure .cancelled) ∨
      ∃ t f, ts.getLast? = some t ∧ t.result = .error f ∧ r.error = some (.ofFailure f))
  /-- A failure that may pass is the last one when no attempt is left, or when the run was cancelled
  as the attempt returned. -/
  exhausted : ∀ t f, ts.getLast? = some t → t.result = .error f → f.isRetryable = true →
    ts.length = min (p.retries + 1) attemptBound ∨
      t.asking = [⟨.token (.attempt step.id (ts.length + 1)), true⟩]

theorem IsHistory.isTally (h : IsHistory p before step xs cancelled ts r after) :
    IsTally p step cancelled ts r := by
  refine ⟨?_, h.attempts, h.length_le, h.eq_nil_iff, ?_, ?_, ?_, ?_⟩
  · intro t ht
    obtain ⟨i, hi⟩ := List.mem_iff_getElem?.1 ht
    obtain ⟨left, -, htrial, -⟩ := h.isTrial hi
    exact htrial.acts
  · intro i t hi hlt
    obtain ⟨left, -, htrial, hagain⟩ := h.isTrial hi
    exact (htrial.of_again (hagain.2 hlt)).2.1
  · rw [h.status, h.error, failureOf?]
    cases ts.getLast? with
    | none => simp
    | some t => cases hresult : t.result <;> simp [Trial.failure?, hresult]
  · intro hnot
    rw [h.status, h.error, failureOf?]
    cases hlast : ts.getLast? with
    | none => simp [List.getLast?_eq_none_iff.1 hlast]
    | some t =>
      cases hresult : t.result with
      | ok u => exact absurd ⟨t, hlast, hresult⟩ hnot
      | error f =>
        refine ⟨by simp [Trial.failure?, hresult], .inr ⟨t, f, rfl, hresult, ?_⟩⟩
        simp [Trial.failure?, hresult]
  · intro t f hlast hf hretryable
    rw [List.getLast?_eq_getElem?] at hlast
    have hpos : 0 < ts.length := by
      obtain ⟨hlt, -⟩ := List.getElem?_eq_some_iff.1 hlast
      omega
    obtain ⟨left, hleft, htrial, hagain⟩ := h.isTrial hlast
    rw [Nat.sub_add_cancel hpos] at htrial hagain
    have hnot : t.again = false := Bool.eq_false_iff.2 fun ha => Nat.lt_irrefl _ (hagain.1 ha)
    rcases htrial.of_not_again hnot hf hretryable with hzero | hasked
    · left
      change ts.length = maxAttempts p.retries
      omega
    · exact .inr hasked

/-- A step ends in every world. Whatever it is answered, it is attempted as often as that helps and
is allowed, its attempts are counted, and the last of them decides about it. -/
theorem attempts_of_runStep (p : Performer) (before : Bool) (step : Scenario.Step) :
    (∀ (σ : Type) (w : World σ) (st : State σ),
      Ends (p.runStep before step) ((p.runStep before step).trace w st)
        ((p.runStep before step).run w st).1 ∧
      w.Leads st ((p.runStep before step).trace w st) ((p.runStep before step).run w st).2 ∧
      ∀ us next (cancelled : Bool) vs st',
        (p.runStep before step).trace w st = us ++ ⟨.token next, cancelled⟩ :: vs →
        w.Leads st (us ++ [⟨.token next, cancelled⟩]) st' → st'.cancelled = cancelled) ∧
    ∀ xs r after, Ends (p.runStep before step) xs (r, after) →
      ∃ cancelled ts, IsHistory p before step xs cancelled ts r after ∧
        IsTally p step cancelled ts r := by
  refine ⟨fun σ w st => ⟨ends_trace w _ st, leads_trace w _ st, ?_⟩, fun xs r after h => ?_⟩
  · intro us next cancelled vs st' _ hleads
    exact cancelled_of_leads_token hleads
  · obtain ⟨cancelled, ts, hhistory⟩ := exists_history h
    exact ⟨cancelled, ts, hhistory, hhistory.isTally⟩

end Step

/-! A step that may be attempted twice. The browser refuses the page the first time, and gives no
picture of that in time; then the page is loaded, and its picture is stored. -/

namespace Retried

def limit : Duration := .ofMillis 1000

def retrier : Performer where
  session := ⟨0, ⟨limit, .zero, limit⟩⟩
  recorder := ⟨0, ⟨false, true, false, false, Config.Video.default⟩, "A", limit⟩
  retries := 1

def step : Scenario.Step := ⟨1, "s", "", "", "", .navigate "u", .zero, true⟩

def now : Exchange := ⟨.now, (⟨default, 0⟩ : Moment)⟩

/-- The exchange of a call that loads the page. -/
def loading (ending : Ending Unit) : Exchange :=
  ⟨.call 0 (.navigate "u") limit, (ending, 0)⟩

/-- The exchange of a screenshot. -/
def taking (bytes : Option (Except Browser.Fault ByteArray)) : Exchange :=
  ⟨.shielded 0 .screenshot limit, bytes⟩

def key : Capture.Key := ⟨.screenshot, .stepPassed, "A", some 1, some 2, default⟩

def exchanges : List Exchange :=
  [now, ⟨.token (.step 1), false⟩,
    loading (.answered (.error (.broken "gone" true))), ⟨.token (.attempt 1 2), false⟩, taking none,
    loading (.answered (.ok ())), taking (some (.ok "p".toUTF8)), now,
    ⟨.store key "p".toUTF8, some "mem"⟩, now]

def result : StepResult :=
  ⟨1, "s", .navigate, .passed, 2, 0, [key.artifact "mem"], none, default⟩

theorem ends_exchanges : Ends (retrier.runStep false step) exchanges (result, false) :=
  .step (.step (.step (.step (.step (.step (.step (.step (.step (.step (.refl _))))))))))

theorem attempts_of_exchanges :
    Ends (retrier.runStep false step) exchanges (result, false) ∧
      ∃ cancelled ts, IsHistory retrier false step exchanges cancelled ts result false ∧
        IsTally retrier step cancelled ts result :=
  ⟨ends_exchanges, (attempts_of_runStep retrier false step).2 _ _ _ ends_exchanges⟩

end Retried

end Performer
end Run
end Walkthrough
