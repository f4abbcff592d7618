import Walkthrough.Proofs.Laps

/-!
# Walkthrough.Proofs.Limits

How long captures and attempts take, however long the browser takes, and that an attempt gives up at
once when the run is cancelled.

* `within_screenshot`, `within_cut`: a capture takes one limit for each call that it makes.
* `lasts_locateWithin`: looking for an element again and again takes no more than its budget and one
  last call; what is left of the budget was not used.
* `within_execute`: one attempt of a step, put together from one bound for each action.
* `GivesUp`: an attempt fails without doing anything once the run is cancelled.
-/

namespace Walkthrough

/-- How long an action does nothing of its own accord. -/
def Action.idle : Action → Duration
  | .wait span => span
  | _ => .zero

open Run

/-! ## Captures -/

namespace Capture.Recorder

open Browser Report

variable (r : Recorder)

theorem within_tryCall (c : Call) : (r.tryCall c).Within r.limit.ceilMillis := by
  refine within_bind_zero (within_shielded r.session c r.limit) ?_
  intro a
  split
  · exact within_pure _
  · exact within_pure _

theorem within_persist (kind : ArtifactKind) (reason : Reason) (stepId attempt : Option Nat)
    (bytes : ByteArray) : (r.persist kind reason stepId attempt bytes).Within 0 := by
  refine within_bind_zero within_now fun moment => ?_
  exact within_bind_zero (within_store _ bytes) fun path? => within_pure _

theorem within_screenshot (reason : Reason) (stepId attempt : Nat) :
    (r.screenshot reason stepId attempt).Within r.limit.ceilMillis := by
  refine within_bind_zero (r.within_tryCall .screenshot) ?_
  intro a
  cases a with
  | none => exact within_pure _
  | some bytes => exact r.within_persist _ _ _ _ _

theorem within_startRecording : r.startRecording.Within r.limit.ceilMillis :=
  within_bind_zero (r.within_tryCall _) fun _ => within_pure _

theorem within_stopRecording : r.stopRecording.Within r.limit.ceilMillis := by
  refine within_bind_zero (r.within_tryCall .stopVideo) ?_
  intro a
  cases a with
  | none => exact within_pure _
  | some bytes => exact within_pure _

theorem within_start : r.start.Within r.limit.ceilMillis :=
  within_ite r.within_startRecording ((within_pure false).mono (Nat.zero_le _))

theorem within_passed (stepId : Nat) (flagged : Bool) (attempt : Nat) :
    (r.passed stepId flagged attempt).Within r.limit.ceilMillis :=
  within_ite (r.within_screenshot _ _ _) ((within_pure none).mono (Nat.zero_le _))

theorem within_failed (stepId : Nat) (flagged : Bool) (attempt : Nat) (terminal : Bool) :
    (r.failed stepId flagged attempt terminal).Within r.limit.ceilMillis :=
  within_ite (r.within_screenshot _ _ _) ((within_pure none).mono (Nat.zero_le _))

theorem within_cut (recording : Bool) (stepId : Nat) :
    (r.cut recording stepId).Within (2 * r.limit.ceilMillis) := by
  refine within_ite ?_ ((within_pure _).mono (Nat.zero_le _))
  rw [Nat.two_mul]
  refine within_bind r.within_stopRecording fun bytes? => ?_
  have again (artifact? : Option Artifact) :
      (r.startRecording >>= fun runs => pure (artifact?, runs)).Within r.limit.ceilMillis :=
    within_bind_zero r.within_startRecording fun _ => within_pure _
  cases bytes? with
  | none => exact again none
  | some bytes => exact within_zero_bind (r.within_persist _ _ _ _ _) again

theorem within_finish (recording : Bool) : (r.finish recording).Within r.limit.ceilMillis := by
  refine within_ite ?_ ((within_pure _).mono (Nat.zero_le _))
  refine within_bind_zero r.within_stopRecording fun bytes? => ?_
  cases bytes? with
  | none => exact within_pure _
  | some bytes =>
    exact within_bind_zero (r.within_persist _ _ _ _ _) fun _ => within_pure _

end Capture.Recorder

namespace Run

open Browser

/-! ## Budgets in nanoseconds -/

/-- Whole milliseconds that are taken from a budget are taken from its milliseconds. -/
theorem ceilMillis_sub (nanos ms : Nat) :
    (Duration.mk (nanos - nanosOfMillis ms)).ceilMillis = (Duration.mk nanos).ceilMillis - ms := by
  simp only [Duration.ceilMillis, nanosOfMillis, Duration.ofMillis]
  omega

theorem lt_ceilMillis {nanos ms : Nat} (h : nanos - nanosOfMillis ms ≠ 0) :
    ms < (Duration.mk nanos).ceilMillis := by
  simp only [Duration.ceilMillis, nanosOfMillis, Duration.ofMillis] at h ⊢
  omega

/-- A nap and the budget after it take no more than the budget. -/
theorem nap_add_afterNap (left : Nat) :
    (Duration.mk (min pollInterval.nanos left)).ceilMillis +
      (Duration.mk (afterNap left 0)).ceilMillis ≤ (Duration.mk left).ceilMillis := by
  rw [afterNap, ceilMillis_sub, Nat.add_zero]
  simp only [Duration.ceilMillis]
  omega

namespace Session

variable (s : Session)

/-! ## Attempts -/

theorem lasts_timed {c : Call} {limit : Duration} {t : Nat} {e : Except Failure c.Result × Nat}
    (h : Lasts Takes (s.timed c limit) t e) : e.2 = nanosOfMillis t ∧ t ≤ limit.ceilMillis := by
  obtain ⟨⟨ending, millis⟩, u, v, ⟨hmillis, hle⟩, h', rfl⟩ := lasts_ask_bind.1 h
  obtain ⟨rfl, rfl⟩ := lasts_pure.1 h'
  change u = millis at hmillis
  subst hmillis
  exact ⟨rfl, hle⟩

theorem within_within (c : Call) (limit : Duration) :
    (s.within limit c).run.Within limit.ceilMillis :=
  within_map fun _ _ h => (s.lasts_timed h).2

theorem within_load (c : Call) : (s.load c).run.Within s.limits.pageLoad.ceilMillis :=
  s.within_within c _

theorem within_script (c : Call) : (s.script c).run.Within s.limits.script.ceilMillis :=
  s.within_within c _

theorem within_rest (span : Duration) : (Program.ask (.rest span)).Within span.ceilMillis :=
  within_ask fun _ _ h => h.1

theorem within_pause (span : Duration) : (pause span).run.Within span.ceilMillis := by
  refine within_bind_zero (within_rest span) ?_
  intro a
  cases a with
  | none => exact within_pure _
  | some late => exact within_pure _

/-- Looking for an element takes no more than the budget and one last call; if some of the budget is
left, no more than has been taken from it. -/
theorem lasts_locateWithin (l : Locator) {remaining t : Nat} {e : Except Failure (Handle × Nat)}
    (h : Lasts Takes (s.locateWithin l remaining) t e) :
    t ≤ (Duration.mk remaining).ceilMillis + s.limits.script.ceilMillis ∧
      ∀ element left, e = .ok (element, left) → left ≠ 0 →
        t + (Duration.mk left).ceilMillis ≤ (Duration.mk remaining).ceilMillis := by
  induction remaining using Nat.strongRecOn generalizing t e with
  | ind remaining ih =>
    rw [locateWithin] at h
    obtain ⟨⟨found, spent⟩, u, v, hu, h', rfl⟩ := lasts_bind.1 h
    obtain ⟨rfl, hle⟩ := s.lasts_timed hu
    cases found with
    | ok element =>
      obtain ⟨rfl, rfl⟩ := lasts_pure.1 h'
      refine ⟨by omega, ?_⟩
      rintro _ _ heq hleft
      obtain ⟨rfl, rfl⟩ := Prod.mk.inj (Except.ok.inj heq)
      have := lt_ceilMillis hleft
      rw [ceilMillis_sub]
      omega
    | error f =>
      cases f with
      | notFound what =>
        dsimp only at h'
        split at h'
        · obtain ⟨rfl, rfl⟩ := lasts_pure.1 h'
          exact ⟨by omega, fun _ _ heq => by cases heq⟩
        · next hleft =>
          have hlt := lt_ceilMillis hleft
          have hsub := ceilMillis_sub remaining u
          have hnap := nap_add_afterNap (remaining - nanosOfMillis u)
          obtain ⟨a, x, y, ⟨hx, hlate⟩, h'', rfl⟩ := lasts_ask_bind.1 h'
          cases a with
          | none =>
            obtain ⟨rfl, rfl⟩ := lasts_pure.1 h''
            exact ⟨by omega, fun _ _ heq => by cases heq⟩
          | some late =>
            obtain ⟨rfl, -⟩ := hlate late rfl
            have hless : afterNap (remaining - nanosOfMillis u) 0 < remaining :=
              Nat.lt_of_lt_of_le (afterNap_lt hleft 0) (Nat.sub_le _ _)
            obtain ⟨htime, hbudget⟩ := ih _ hless h''
            refine ⟨by omega, fun element left heq hne => ?_⟩
            have := hbudget element left heq hne
            omega
      | _ =>
        obtain ⟨rfl, rfl⟩ := lasts_pure.1 h'
        exact ⟨by omega, fun _ _ heq => by cases heq⟩

theorem within_locate (l : Locator) :
    (s.locate l).run.Within (s.limits.elementWait.ceilMillis + s.limits.script.ceilMillis) := by
  refine within_bind_zero (fun t e h => (s.lasts_locateWithin l h).1) ?_
  intro e
  split
  · exact within_pure _
  · exact within_pure _

theorem within_readWithin (l : Locator) (text : String) (element : Handle) (remaining : Nat) :
    (s.readWithin l text element remaining).Within
      ((Duration.mk remaining).ceilMillis + s.limits.script.ceilMillis) := by
  induction remaining using Nat.strongRecOn with
  | ind remaining ih =>
    intro t e h
    rw [readWithin] at h
    obtain ⟨⟨read, spent⟩, u, v, hu, h', rfl⟩ := lasts_bind.1 h
    obtain ⟨rfl, hle⟩ := s.lasts_timed hu
    cases read with
    | error f =>
      obtain ⟨rfl, rfl⟩ := lasts_pure.1 h'
      omega
    | ok actual =>
      dsimp only at h'
      split at h'
      · obtain ⟨rfl, rfl⟩ := lasts_pure.1 h'
        omega
      · split at h'
        · obtain ⟨rfl, rfl⟩ := lasts_pure.1 h'
          omega
        · next hleft =>
          have hlt := lt_ceilMillis hleft
          have hsub := ceilMillis_sub remaining u
          have hnap := nap_add_afterNap (remaining - nanosOfMillis u)
          obtain ⟨a, x, y, ⟨hx, hlate⟩, h'', rfl⟩ := lasts_ask_bind.1 h'
          cases a with
          | none =>
            obtain ⟨rfl, rfl⟩ := lasts_pure.1 h''
            omega
          | some late =>
            obtain ⟨rfl, -⟩ := hlate late rfl
            have hless : afterNap (remaining - nanosOfMillis u) 0 < remaining :=
              Nat.lt_of_lt_of_le (afterNap_lt hleft 0) (Nat.sub_le _ _)
            have := ih _ hless y e h''
            omega

/-- Looking for an element and reading it share one budget, so that there is one more call. -/
theorem within_awaitText (l : Locator) (text : String) :
    (s.awaitText l text).run.Within
      (s.limits.elementWait.ceilMillis + 2 * s.limits.script.ceilMillis) := by
  intro t e h
  obtain ⟨found, u, v, hu, h', rfl⟩ := lasts_bind.1 h
  obtain ⟨htime, hbudget⟩ := s.lasts_locateWithin l hu
  have hwait : (Duration.mk s.limits.elementWait.nanos).ceilMillis =
      s.limits.elementWait.ceilMillis := rfl
  cases found with
  | error f =>
    obtain ⟨rfl, rfl⟩ := lasts_pure.1 h'
    omega
  | ok r =>
    obtain ⟨element, left⟩ := r
    have hread := s.within_readWithin l text element left v e h'
    by_cases hleft : left = 0
    · subst hleft
      have hzero : (Duration.mk 0).ceilMillis = 0 := rfl
      omega
    · have := hbudget element left rfl hleft
      omega

theorem within_assertVisible (l : Locator) :
    (s.assertVisible l).run.Within
      (s.limits.elementWait.ceilMillis + 2 * s.limits.script.ceilMillis) := by
  rw [Nat.two_mul, ← Nat.add_assoc]
  refine within_attempt_bind (within_tryCatch (s.within_locate l) fun f => ?_) fun element => ?_
  · cases f <;> exact within_pure _
  · exact within_attempt_bind_zero (s.within_script _) fun shown => within_expect _ _

theorem within_assertNotVisible (l : Locator) :
    (s.assertNotVisible l).run.Within (3 * s.limits.script.ceilMillis) := by
  have hthree : 3 * s.limits.script.ceilMillis =
      s.limits.script.ceilMillis + (s.limits.script.ceilMillis + s.limits.script.ceilMillis) := by
    omega
  rw [hthree]
  refine within_attempt_bind (s.within_script (.count l)) fun present => ?_
  split
  · exact (within_pure _).mono (Nat.zero_le _)
  · refine within_attempt_bind
      (within_tryCatch (within_attempt_map (s.within_script (.find l))) fun f => ?_)
      fun element? => ?_
    · cases f <;> exact within_pure _
    · cases element? with
      | none => exact (within_pure _).mono (Nat.zero_le _)
      | some element =>
        exact within_attempt_bind_zero (s.within_script _) fun shown => within_expect _ _

/-- An action takes no more than a page load, the wait for an element and three other calls, or the
time that it does nothing. -/
theorem within_perform (a : Action) :
    (s.perform a).run.Within
      (s.limits.pageLoad.ceilMillis + s.limits.elementWait.ceilMillis +
        3 * s.limits.script.ceilMillis + a.idle.ceilMillis) := by
  have onElement (l : Locator) {f : Handle → Attempt Unit} {n : Nat}
      (hf : ∀ element, (f element).run.Within n) (hn : n ≤ 2 * s.limits.script.ceilMillis) :
      (s.locate l >>= f).run.Within
        (s.limits.pageLoad.ceilMillis + s.limits.elementWait.ceilMillis +
          3 * s.limits.script.ceilMillis + a.idle.ceilMillis) :=
    (within_attempt_bind (s.within_locate l) hf).mono (by omega)
  have hone : s.limits.script.ceilMillis ≤ 2 * s.limits.script.ceilMillis := by omega
  cases a with
  | navigate url => exact (s.within_load _).mono (by omega)
  | inputText l text =>
    exact onElement l (fun _ => within_attempt_bind (s.within_script _) fun _ =>
      s.within_script _) (Nat.le_of_eq (Nat.two_mul _).symm)
  | click l => exact onElement l (fun _ => s.within_script _) hone
  | doubleClick l => exact onElement l (fun _ => s.within_script _) hone
  | rightClick l => exact onElement l (fun _ => s.within_script _) hone
  | hover l => exact onElement l (fun _ => s.within_script _) hone
  | clearText l => exact onElement l (fun _ => s.within_script _) hone
  | selectDropdown l option => exact onElement l (fun _ => s.within_script _) hone
  | assertElementText l expected =>
    exact onElement l (fun _ => within_attempt_bind_zero (s.within_script _) fun _ =>
      within_expect _ _) hone
  | assertElementCount l expected =>
    exact (within_attempt_bind_zero (s.within_script _) fun _ => within_expect _ _).mono (by omega)
  | assertElementVisible l => exact (s.within_assertVisible l).mono (by omega)
  | assertElementNotVisible l => exact (s.within_assertNotVisible l).mono (by omega)
  | assertElementAttribute l name expected =>
    exact onElement l (fun _ => within_attempt_bind_zero (s.within_script _) fun _ =>
      within_expect _ _) hone
  | assertUrlContains expected =>
    exact (within_attempt_bind_zero (s.within_script _) fun _ => within_expect _ _).mono (by omega)
  | assertTitleContains expected =>
    exact (within_attempt_bind_zero (s.within_script _) fun _ => within_expect _ _).mono (by omega)
  | waitForElement l => exact onElement l (fun _ => within_attempt_pure ()) (Nat.zero_le _)
  | waitForText l text => exact (s.within_awaitText l text).mono (by omega)
  | refresh => exact (s.within_load _).mono (by omega)
  | back => exact (s.within_load _).mono (by omega)
  | forward => exact (s.within_load _).mono (by omega)
  | wait span => exact (within_pause span).mono (Nat.le_add_left _ _)

theorem within_execute (step : Scenario.Step) :
    (s.execute step).run.Within
      (s.limits.pageLoad.ceilMillis + s.limits.elementWait.ceilMillis +
        3 * s.limits.script.ceilMillis + step.action.idle.ceilMillis +
        step.waitTime.ceilMillis) := by
  refine within_attempt_bind (s.within_perform step.action) ?_
  intro _
  split
  · exact within_pause step.waitTime
  · exact (within_attempt_pure ()).mono (Nat.zero_le _)

end Session

/-! ## Attempts that give up -/

/-- Once the run is cancelled, an attempt fails before anything is done. -/
def GivesUp {α : Type} (x : Attempt α) : Prop :=
  ∀ t e, Lasts Late x.run t e → e = .error .cancelled

section GivesUp

variable {α β : Type} {x : Attempt α}

theorem givesUp_bind (hx : GivesUp x) (f : α → Attempt β) : GivesUp (x >>= f) := by
  intro t e h
  obtain ⟨e', u, v, hu, h', rfl⟩ := lasts_bind.1 h
  obtain rfl := hx u e' hu
  exact (lasts_pure.1 h').2

theorem givesUp_tryCatch (hx : GivesUp x) {f : Failure → Attempt α}
    (hf : f .cancelled = throw .cancelled) : GivesUp (tryCatch x f) := by
  intro t e h
  obtain ⟨e', u, v, hu, h', rfl⟩ := lasts_bind.1 h
  obtain rfl := hx u e' hu
  change Lasts Late (f .cancelled).run v e at h'
  rw [hf] at h'
  exact (lasts_pure.1 h').2

theorem givesUp_pause (span : Duration) : GivesUp (pause span) := by
  intro t e h
  obtain ⟨a, u, v, ⟨ha, -⟩, h', rfl⟩ := lasts_ask_bind.1 h
  subst ha
  exact (lasts_pure.1 h').2

namespace Session

variable (s : Session)

theorem late_timed {c : Call} {limit : Duration} {t : Nat} {e : Except Failure c.Result × Nat}
    (h : Lasts Late (s.timed c limit) t e) : e.1 = .error .cancelled := by
  obtain ⟨a, u, v, ⟨ha, -⟩, h', rfl⟩ := lasts_ask_bind.1 h
  subst ha
  obtain ⟨-, rfl⟩ := lasts_pure.1 h'
  rfl

theorem givesUp_within (limit : Duration) (c : Call) : GivesUp (s.within limit c) := by
  intro t e h
  obtain ⟨a, u, v, hu, h', rfl⟩ := lasts_bind.1 h
  obtain ⟨-, rfl⟩ := lasts_pure.1 h'
  exact s.late_timed hu

theorem late_locateWithin {l : Locator} {remaining t : Nat} {e : Except Failure (Handle × Nat)}
    (h : Lasts Late (s.locateWithin l remaining) t e) : e = .error .cancelled := by
  rw [locateWithin] at h
  obtain ⟨⟨found, spent⟩, u, v, hu, h', rfl⟩ := lasts_bind.1 h
  obtain rfl : found = _ := s.late_timed hu
  exact (lasts_pure.1 h').2

theorem givesUp_locate (l : Locator) : GivesUp (s.locate l) := by
  intro t e h
  obtain ⟨found, u, v, hu, h', rfl⟩ := lasts_bind.1 h
  obtain rfl := s.late_locateWithin hu
  exact (lasts_pure.1 h').2

theorem givesUp_awaitText (l : Locator) (text : String) : GivesUp (s.awaitText l text) := by
  intro t e h
  obtain ⟨found, u, v, hu, h', rfl⟩ := lasts_bind.1 h
  obtain rfl := s.late_locateWithin hu
  exact (lasts_pure.1 h').2

theorem givesUp_perform (a : Action) : GivesUp (s.perform a) := by
  cases a with
  | navigate url => exact s.givesUp_within _ _
  | inputText l text => exact givesUp_bind (s.givesUp_locate l) _
  | click l => exact givesUp_bind (s.givesUp_locate l) _
  | doubleClick l => exact givesUp_bind (s.givesUp_locate l) _
  | rightClick l => exact givesUp_bind (s.givesUp_locate l) _
  | hover l => exact givesUp_bind (s.givesUp_locate l) _
  | clearText l => exact givesUp_bind (s.givesUp_locate l) _
  | selectDropdown l option => exact givesUp_bind (s.givesUp_locate l) _
  | assertElementText l expected => exact givesUp_bind (s.givesUp_locate l) _
  | assertElementCount l expected => exact givesUp_bind (s.givesUp_within _ _) _
  | assertElementVisible l =>
    refine givesUp_bind (givesUp_tryCatch (s.givesUp_locate l) ?_) _
    rfl
  | assertElementNotVisible l => exact givesUp_bind (s.givesUp_within _ _) _
  | assertElementAttribute l name expected => exact givesUp_bind (s.givesUp_locate l) _
  | assertUrlContains expected => exact givesUp_bind (s.givesUp_within _ _) _
  | assertTitleContains expected => exact givesUp_bind (s.givesUp_within _ _) _
  | waitForElement l => exact givesUp_bind (s.givesUp_locate l) _
  | waitForText l text => exact s.givesUp_awaitText l text
  | refresh => exact s.givesUp_within _ _
  | back => exact s.givesUp_within _ _
  | forward => exact s.givesUp_within _ _
  | wait span => exact givesUp_pause span

theorem givesUp_execute (step : Scenario.Step) : GivesUp (s.execute step) :=
  givesUp_bind (s.givesUp_perform step.action) _

end Session
end GivesUp

end Run
end Walkthrough
