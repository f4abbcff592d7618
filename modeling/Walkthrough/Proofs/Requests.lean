import Walkthrough.Proofs.Course
import Walkthrough.Run.Scenario

/-!
# Walkthrough.Proofs.Requests

What the parts of a scenario may ask. Everything is asked of the session that the part works in, the
end of a session is asked for by none of them, and what captures ask for is told apart from what
attempts do on the page.

* `isOnPage_execute`: an attempt of a step makes calls on its page and rests.
* `AllowsPictures`, `AllowsRecordings`: properties of all that a recorder asks for. They are carried
  over to its programs by `asks_passed` and the lemmas beside it.
-/

namespace Walkthrough

/-- May a call still be made when nothing more is done on the page? -/
def Browser.Call.mayComeLate (c : Browser.Call) : Bool := c.isCapture || c = .close

namespace Run

open Browser

namespace Request

/-- The call that is asked for, and the session that it is to be made in. -/
def call? : Request → Option (Nat × Call)
  | .call session c _ => some (session, c)
  | .shielded session c _ => some (session, c)
  | _ => none

/-- What an attempt asks: calls in its session and rests. -/
def IsAttempt (session : Nat) : Request → Prop
  | .call s c _ => s = session ∧ c ≠ .close
  | .rest _ => True
  | _ => False

/-- What is done on a page: calls that neither capture it nor end the session, and rests. -/
def IsOnPage (session : Nat) : Request → Prop
  | .call s c _ => s = session ∧ c.mayComeLate = false
  | .rest _ => True
  | _ => False

theorem IsOnPage.isAttempt {session : Nat} {r : Request} (h : r.IsOnPage session) :
    r.IsAttempt session := by
  cases r with
  | call s c limit =>
    refine ⟨h.1, ?_⟩
    rintro rfl
    cases h.2
  | rest span => trivial
  | _ => exact h.elim

/-- What a capture asks: pictures and recordings of its session, and to keep them. -/
def IsCapture (session : Nat) : Request → Prop
  | .shielded s c _ => s = session ∧ c.isCapture = true
  | .now => True
  | .store _ _ => True
  | _ => False

/-- What is asked between the start of a step and its result. -/
def IsInStep (session : Nat) : Request → Prop
  | .token next => ∃ id number, next = .attempt id number
  | r => r.IsAttempt session ∨ r.IsCapture session

theorem IsAttempt.isInStep {session : Nat} {r : Request} (h : r.IsAttempt session) :
    r.IsInStep session := by
  cases r with
  | token next => exact h.elim
  | _ => exact .inl h

theorem IsCapture.isInStep {session : Nat} {r : Request} (h : r.IsCapture session) :
    r.IsInStep session := by
  cases r with
  | token next => exact h.elim
  | _ => exact .inr h

/-- Captures make no other calls. -/
theorem IsCapture.call_isCapture {session s : Nat} {c : Call} {r : Request}
    (h : r.IsCapture session) (hc : r.call? = some (s, c)) : c.isCapture = true := by
  cases r with
  | shielded s' c' limit =>
    obtain ⟨rfl, rfl⟩ := Prod.mk.inj (Option.some.inj hc)
    exact h.2
  | call s' c' limit => exact h.elim
  | _ => cases hc

end Request

/-! ## Attempts -/

section Attempts

variable {α β : Type} {P : Request → Prop}

theorem asks_attempt_bind {x : Attempt α} {f : α → Attempt β} (hx : x.run.Asks P)
    (hf : ∀ a, (f a).run.Asks P) : (x >>= f).run.Asks P :=
  asks_bind hx fun e =>
    match e with
    | .ok a => hf a
    | .error _ => trivial

theorem asks_attempt_pure (a : α) : (pure a : Attempt α).run.Asks P := trivial

theorem asks_attempt_throw (f : Failure) : (throw f : Attempt α).run.Asks P := trivial

theorem asks_attempt_map {x : Attempt α} {f : α → β} (hx : x.run.Asks P) :
    (f <$> x).run.Asks P :=
  asks_bind hx fun e =>
    match e with
    | .ok _ => trivial
    | .error _ => trivial

theorem asks_tryCatch {x : Attempt α} {f : Failure → Attempt α} (hx : x.run.Asks P)
    (hf : ∀ e, (f e).run.Asks P) : (tryCatch x f).run.Asks P :=
  asks_bind hx fun e =>
    match e with
    | .ok _ => trivial
    | .error e => hf e

theorem asks_expect (holds : Bool) (finding : Failure.Finding) :
    (Session.expect holds finding).run.Asks P := by
  unfold Session.expect
  split
  · exact asks_attempt_pure ()
  · exact asks_attempt_throw _

theorem asks_pause (session : Nat) (span : Duration) :
    (pause span).run.Asks (Request.IsOnPage session) :=
  asks_bind (asks_ask trivial) fun a =>
    match a with
    | some _ => trivial
    | none => trivial

end Attempts

namespace Session

variable (s : Session)

theorem asks_timed (c : Call) (limit : Duration) (hc : c.mayComeLate = false) :
    (s.timed c limit).Asks (Request.IsOnPage s.id) :=
  asks_bind (asks_ask ⟨rfl, hc⟩) fun _ => trivial

theorem asks_within (c : Call) (limit : Duration) (hc : c.mayComeLate = false) :
    (s.within limit c).run.Asks (Request.IsOnPage s.id) :=
  asks_map (s.asks_timed c limit hc)

theorem asks_load {c : Call} (hc : c.mayComeLate = false) :
    (s.load c).run.Asks (Request.IsOnPage s.id) :=
  s.asks_within c _ hc

theorem asks_script {c : Call} (hc : c.mayComeLate = false) :
    (s.script c).run.Asks (Request.IsOnPage s.id) :=
  s.asks_within c _ hc

theorem asks_locateWithin (l : Locator) (remaining : Nat) :
    (s.locateWithin l remaining).Asks (Request.IsOnPage s.id) := by
  induction remaining using Nat.strongRecOn with
  | ind remaining ih =>
    rw [locateWithin]
    refine asks_bind (s.asks_timed _ _ rfl) fun r => ?_
    obtain ⟨found, spent⟩ := r
    cases found with
    | ok element => trivial
    | error f =>
      cases f with
      | notFound what =>
        dsimp only
        split
        · trivial
        · next hleft =>
          refine asks_bind (asks_ask trivial) ?_
          intro a
          cases a with
          | none => trivial
          | some late =>
            exact ih _ (Nat.lt_of_lt_of_le (afterNap_lt hleft late) (Nat.sub_le _ _))
      | _ => trivial

theorem asks_locate (l : Locator) : (s.locate l).run.Asks (Request.IsOnPage s.id) :=
  asks_bind (s.asks_locateWithin l _) fun r =>
    match r with
    | .ok _ => trivial
    | .error _ => trivial

theorem asks_readWithin (l : Locator) (text : String) (element : Handle) (remaining : Nat) :
    (s.readWithin l text element remaining).Asks (Request.IsOnPage s.id) := by
  induction remaining using Nat.strongRecOn with
  | ind remaining ih =>
    rw [readWithin]
    refine asks_bind (s.asks_timed _ _ rfl) fun r => ?_
    obtain ⟨read, spent⟩ := r
    cases read with
    | error f => trivial
    | ok actual =>
      dsimp only
      split
      · trivial
      · split
        · trivial
        · next hleft =>
          refine asks_bind (asks_ask trivial) ?_
          intro a
          cases a with
          | none => trivial
          | some late =>
            exact ih _ (Nat.lt_of_lt_of_le (afterNap_lt hleft late) (Nat.sub_le _ _))

theorem asks_awaitText (l : Locator) (text : String) :
    (s.awaitText l text).run.Asks (Request.IsOnPage s.id) :=
  asks_bind (s.asks_locateWithin l _) fun r =>
    match r with
    | .ok (element, left) => s.asks_readWithin l text element left
    | .error _ => trivial

theorem asks_assertVisible (l : Locator) :
    (s.assertVisible l).run.Asks (Request.IsOnPage s.id) := by
  refine asks_attempt_bind (asks_tryCatch (s.asks_locate l) fun f => ?_) fun element =>
    asks_attempt_bind (s.asks_script rfl) fun shown => asks_expect _ _
  cases f <;> exact asks_attempt_throw _

theorem asks_assertNotVisible (l : Locator) :
    (s.assertNotVisible l).run.Asks (Request.IsOnPage s.id) := by
  refine asks_attempt_bind (s.asks_script rfl) fun present => ?_
  split
  · exact asks_attempt_pure ()
  · refine asks_attempt_bind
      (asks_tryCatch (asks_attempt_map (s.asks_script rfl)) fun f => ?_) fun element? => ?_
    · cases f with
      | notFound what => exact asks_attempt_pure _
      | _ => exact asks_attempt_throw _
    · cases element? with
      | none => exact asks_attempt_pure ()
      | some element => exact asks_attempt_bind (s.asks_script rfl) fun shown => asks_expect _ _

theorem asks_perform (a : Action) : (s.perform a).run.Asks (Request.IsOnPage s.id) := by
  cases a with
  | navigate url => exact s.asks_load rfl
  | inputText l text =>
    exact asks_attempt_bind (s.asks_locate l) fun _ =>
      asks_attempt_bind (s.asks_script rfl) fun _ => s.asks_script rfl
  | click l => exact asks_attempt_bind (s.asks_locate l) fun _ => s.asks_script rfl
  | doubleClick l => exact asks_attempt_bind (s.asks_locate l) fun _ => s.asks_script rfl
  | rightClick l => exact asks_attempt_bind (s.asks_locate l) fun _ => s.asks_script rfl
  | hover l => exact asks_attempt_bind (s.asks_locate l) fun _ => s.asks_script rfl
  | clearText l => exact asks_attempt_bind (s.asks_locate l) fun _ => s.asks_script rfl
  | selectDropdown l option =>
    exact asks_attempt_bind (s.asks_locate l) fun _ => s.asks_script rfl
  | assertElementText l expected =>
    exact asks_attempt_bind (s.asks_locate l) fun _ =>
      asks_attempt_bind (s.asks_script rfl) fun _ => asks_expect _ _
  | assertElementCount l expected =>
    exact asks_attempt_bind (s.asks_script rfl) fun _ => asks_expect _ _
  | assertElementVisible l => exact s.asks_assertVisible l
  | assertElementNotVisible l => exact s.asks_assertNotVisible l
  | assertElementAttribute l name expected =>
    exact asks_attempt_bind (s.asks_locate l) fun _ =>
      asks_attempt_bind (s.asks_script rfl) fun _ => asks_expect _ _
  | assertUrlContains expected =>
    exact asks_attempt_bind (s.asks_script rfl) fun _ => asks_expect _ _
  | assertTitleContains expected =>
    exact asks_attempt_bind (s.asks_script rfl) fun _ => asks_expect _ _
  | waitForElement l => exact asks_attempt_bind (s.asks_locate l) fun _ => asks_attempt_pure ()
  | waitForText l text => exact s.asks_awaitText l text
  | refresh => exact s.asks_load rfl
  | back => exact s.asks_load rfl
  | forward => exact s.asks_load rfl
  | wait span => exact asks_pause s.id span

theorem isOnPage_execute (step : Scenario.Step) :
    (s.execute step).run.Asks (Request.IsOnPage s.id) := by
  refine asks_attempt_bind (s.asks_perform step.action) ?_
  intro _
  split
  · exact asks_pause s.id step.waitTime
  · exact asks_attempt_pure ()

theorem asks_execute (step : Scenario.Step) :
    (s.execute step).run.Asks (Request.IsAttempt s.id) :=
  (s.isOnPage_execute step).mono fun _ => Request.IsOnPage.isAttempt

end Session

/-! ## Captures -/

end Run

namespace Capture

open Browser Report Run

/-- The captures that a recorder takes: a screenshot of an attempt of a step, the video of a step
and the video of a scenario. -/
inductive Key.IsTaken : Key → Prop
  | passed (scenario : String) (id attempt : Nat) (moment : Timestamp) :
    IsTaken ⟨.screenshot, .stepPassed, scenario, some id, some attempt, moment⟩
  | failed (scenario : String) (id attempt : Nat) (moment : Timestamp) :
    IsTaken ⟨.screenshot, .stepFailed, scenario, some id, some attempt, moment⟩
  | segment (scenario : String) (id : Nat) (moment : Timestamp) :
    IsTaken ⟨.video, .stepSegment, scenario, some id, none, moment⟩
  | scenario (scenario : String) (moment : Timestamp) :
    IsTaken ⟨.video, .scenario, scenario, none, none, moment⟩

namespace Recorder

variable {P : Request → Prop} {r : Recorder}

/-- What a recorder asks to keep a capture is allowed. -/
structure AllowsKeeping (P : Request → Prop) (r : Recorder) : Prop where
  now : P .now
  store : ∀ key bytes, key.IsTaken → P (.store key bytes)

/-- What it asks to take a picture is allowed. -/
structure AllowsPictures (P : Request → Prop) (r : Recorder) : Prop extends
    AllowsKeeping P r where
  picture : P (.shielded r.session .screenshot r.limit)

/-- What it asks to make a recording is allowed. -/
structure AllowsRecordings (P : Request → Prop) (r : Recorder) : Prop extends
    AllowsKeeping P r where
  start : P (.shielded r.session (.startVideo r.policy.video) r.limit)
  stop : P (.shielded r.session .stopVideo r.limit)

/-- Everything that it asks is allowed. -/
structure AllowsCaptures (P : Request → Prop) (r : Recorder) : Prop extends
    AllowsPictures P r, AllowsRecordings P r

theorem asks_tryCall {c : Call} (h : P (.shielded r.session c r.limit)) :
    (r.tryCall c).Asks P := by
  refine asks_bind (asks_ask h) ?_
  intro a
  split <;> trivial

theorem AllowsKeeping.asks_persist (h : r.AllowsKeeping P) {kind : ArtifactKind} {reason : Reason}
    {stepId attempt : Option Nat}
    (htaken : ∀ moment, Key.IsTaken ⟨kind, reason, r.scenario, stepId, attempt, moment⟩)
    (bytes : ByteArray) : (r.persist kind reason stepId attempt bytes).Asks P :=
  asks_bind (asks_ask h.now) fun now =>
    asks_bind (asks_ask (h.store _ _ (htaken now.wall))) fun _ => asks_pure _

namespace AllowsPictures

variable (h : r.AllowsPictures P)

include h

theorem asks_screenshot {reason : Reason} {stepId attempt : Nat}
    (htaken : ∀ moment,
      Key.IsTaken ⟨.screenshot, reason, r.scenario, some stepId, some attempt, moment⟩) :
    (r.screenshot reason stepId attempt).Asks P := by
  refine asks_bind (asks_tryCall h.picture) ?_
  intro bytes?
  cases bytes? with
  | none => trivial
  | some bytes => exact h.asks_persist htaken bytes

theorem asks_passed (stepId : Nat) (flagged : Bool) (attempt : Nat) :
    (r.passed stepId flagged attempt).Asks P :=
  asks_ite (h.asks_screenshot (.passed r.scenario stepId attempt)) (asks_pure none)

theorem asks_failed (stepId : Nat) (flagged : Bool) (attempt : Nat) (terminal : Bool) :
    (r.failed stepId flagged attempt terminal).Asks P :=
  asks_ite (h.asks_screenshot (.failed r.scenario stepId attempt)) (asks_pure none)

end AllowsPictures

namespace AllowsRecordings

variable (h : r.AllowsRecordings P)

include h

theorem asks_startRecording : r.startRecording.Asks P :=
  asks_bind (asks_tryCall h.start) fun _ => trivial

theorem asks_stopRecording : r.stopRecording.Asks P := by
  refine asks_bind (asks_tryCall h.stop) ?_
  intro bytes?
  cases bytes? <;> trivial

theorem asks_start : r.start.Asks P := asks_ite h.asks_startRecording (asks_pure false)

theorem asks_cut (recording : Bool) (stepId : Nat) : (r.cut recording stepId).Asks P := by
  refine asks_ite ?_ (asks_pure _)
  refine asks_bind h.asks_stopRecording fun bytes? => ?_
  have again (artifact? : Option Artifact) :
      (r.startRecording >>= fun runs => pure (artifact?, runs)).Asks P :=
    asks_bind h.asks_startRecording fun _ => asks_pure _
  cases bytes? with
  | none => exact again none
  | some bytes => exact asks_bind (h.asks_persist (.segment r.scenario stepId) bytes) again

theorem asks_finish (recording : Bool) : (r.finish recording).Asks P := by
  refine asks_ite ?_ (asks_pure [])
  refine asks_bind h.asks_stopRecording fun bytes? => ?_
  cases bytes? with
  | none => trivial
  | some bytes =>
    exact asks_bind (h.asks_persist (.scenario r.scenario) bytes) fun _ => asks_pure _

end AllowsRecordings

theorem AllowsCaptures.mono {Q : Request → Prop} (h : r.AllowsCaptures P)
    (hmono : ∀ q, P q → Q q) : r.AllowsCaptures Q where
  now := hmono _ h.now
  store key bytes htaken := hmono _ (h.store key bytes htaken)
  picture := hmono _ h.picture
  start := hmono _ h.start
  stop := hmono _ h.stop

theorem allows_isCapture (r : Recorder) : r.AllowsCaptures (Request.IsCapture r.session) where
  now := trivial
  store _ _ _ := trivial
  picture := ⟨rfl, rfl⟩
  start := ⟨rfl, rfl⟩
  stop := ⟨rfl, rfl⟩

end Recorder
end Capture
end Walkthrough
