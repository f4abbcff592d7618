import Mathlib.Data.List.Forall2
import Walkthrough.Proofs.Likeness
import Walkthrough.Run.Basic

/-!
# Walkthrough.Proofs.Sameness

What a scenario does in one session it does in every other, as far as an observer can tell.

* `masked`: what is left of a result when moments, durations and places of artifacts are left out;
  an observer who is blind to captures does not see artifacts at all.
* `alike_execute`: an attempt of a step does not depend on the number of the session.
* `Performer.IsTwin`: performers that differ in nothing but their sessions and, for an observer who
  is blind to captures, in what they capture; `alike_runAll` says that they do the same.
-/

namespace Walkthrough

namespace Report

/-! ## Masks -/

def Artifact.masked (a : Artifact) : Artifact := { a with path := "", capturedAt := default }

/-- Artifacts as an observer sees them. -/
def maskArtifacts (blind : Bool) (artifacts : List Artifact) : List Artifact :=
  if blind then [] else artifacts.map Artifact.masked

def StepResult.masked (blind : Bool) (r : StepResult) : StepResult :=
  { r with
    durationMs := 0
    artifacts := maskArtifacts blind r.artifacts
    startedAt := default }

def ScenarioResult.masked (blind : Bool) (r : ScenarioResult) : ScenarioResult :=
  { r with
    steps := r.steps.map (StepResult.masked blind)
    durationMs := 0
    artifacts := maskArtifacts blind r.artifacts
    startedAt := default }

theorem maskArtifacts_append (blind : Bool) (as bs : List Artifact) :
    maskArtifacts blind (as ++ bs) = maskArtifacts blind as ++ maskArtifacts blind bs := by
  cases blind with
  | true => rfl
  | false => exact List.map_append

theorem maskArtifacts_append_congr {blind : Bool} {as as' bs bs' : List Artifact}
    (h : maskArtifacts blind as = maskArtifacts blind as')
    (h' : maskArtifacts blind bs = maskArtifacts blind bs') :
    maskArtifacts blind (as ++ bs) = maskArtifacts blind (as' ++ bs') := by
  rw [maskArtifacts_append, maskArtifacts_append, h, h']

end Report

namespace Run

open Browser Report

variable {blind : Bool}

/-! ## Attempts -/

section Attempts

variable {α β : Type}

theorem alike_attempt_bind {x y : Attempt α} {f g : α → Attempt β}
    (h : x.run.Alike blind Eq y.run) (hfg : ∀ a, (f a).run.Alike blind Eq (g a).run) :
    (x >>= f).run.Alike blind Eq (y >>= g).run := by
  refine alike_bind h ?_
  rintro e _ rfl
  cases e with
  | ok a => exact hfg a
  | error f => exact alike_pure rfl

theorem alike_attempt_map {x y : Attempt α} {f : α → β} (h : x.run.Alike blind Eq y.run) :
    (f <$> x).run.Alike blind Eq (f <$> y).run := by
  refine alike_bind h ?_
  rintro e _ rfl
  cases e with
  | ok a => exact alike_pure rfl
  | error f => exact alike_pure rfl

theorem alike_tryCatch {x y : Attempt α} {f : Failure → Attempt α}
    (h : x.run.Alike blind Eq y.run) (hf : ∀ e, (f e).run.Alike blind Eq (f e).run) :
    (tryCatch x f).run.Alike blind Eq (tryCatch y f).run := by
  refine alike_bind h ?_
  rintro e _ rfl
  cases e with
  | ok a => exact alike_pure rfl
  | error f' => exact hf f'

theorem alike_expect (holds : Bool) (finding : Failure.Finding) :
    (Session.expect holds finding).run.Alike blind Eq (Session.expect holds finding).run := by
  unfold Session.expect
  split
  · exact alike_pure rfl
  · exact alike_pure rfl

theorem alike_pause (span : Duration) : (pause span).run.Alike blind Eq (pause span).run := by
  refine alike_rest span ?_
  intro late
  cases late with
  | none => exact alike_pure rfl
  | some n => exact alike_pure rfl

end Attempts

namespace Session

variable {s s' : Session} (hs : s.limits = s'.limits)

theorem alike_timed (s s' : Session) {c : Call} (limit : Duration) (hc : c.isSeen blind = true) :
    (s.timed c limit).Alike blind Eq (s'.timed c limit) :=
  alike_call s.id s'.id limit hc fun _ => alike_pure rfl

theorem alike_within (s s' : Session) {c : Call} (limit : Duration) (hc : c.isSeen blind = true) :
    (s.within limit c).run.Alike blind Eq (s'.within limit c).run :=
  alike_map (alike_timed s s' limit hc) fun _ _ h => congrArg Prod.fst h

include hs

theorem alike_load (c : Call) (hc : c.isCapture = false) :
    (s.load c).run.Alike blind Eq (s'.load c).run := by
  rw [load, load, hs]
  exact alike_within s s' _ (c.isSeen_of_page hc blind)

theorem alike_script (c : Call) (hc : c.isCapture = false) :
    (s.script c).run.Alike blind Eq (s'.script c).run := by
  rw [script, script, hs]
  exact alike_within s s' _ (c.isSeen_of_page hc blind)

theorem alike_locateWithin (l : Locator) (remaining : Nat) :
    (s.locateWithin l remaining).Alike blind Eq (s'.locateWithin l remaining) := by
  induction remaining using Nat.strongRecOn with
  | ind remaining ih =>
    rw [locateWithin, locateWithin, hs]
    refine alike_bind (alike_timed s s' _ (Call.isSeen_of_page rfl blind)) ?_
    rintro ⟨found, spent⟩ _ rfl
    cases found with
    | ok element => exact alike_pure rfl
    | error f =>
      cases f with
      | notFound what =>
        dsimp only
        split
        · exact alike_pure rfl
        · next hleft =>
          refine alike_rest _ fun late => ?_
          cases late with
          | none => exact alike_pure rfl
          | some late => exact ih _ (Nat.lt_of_lt_of_le (afterNap_lt hleft late) (Nat.sub_le _ _))
      | _ => exact alike_pure rfl

theorem alike_locate (l : Locator) : (s.locate l).run.Alike blind Eq (s'.locate l).run := by
  unfold locate
  rw [hs]
  refine alike_bind (alike_locateWithin hs l _) ?_
  rintro e _ rfl
  cases e with
  | ok r => exact alike_pure rfl
  | error f => exact alike_pure rfl

theorem alike_readWithin (l : Locator) (text : String) (element : Handle) (remaining : Nat) :
    (s.readWithin l text element remaining).Alike blind Eq
      (s'.readWithin l text element remaining) := by
  induction remaining using Nat.strongRecOn with
  | ind remaining ih =>
    rw [readWithin, readWithin, hs]
    refine alike_bind (alike_timed s s' _ (Call.isSeen_of_page rfl blind)) ?_
    rintro ⟨read, spent⟩ _ rfl
    cases read with
    | error f => exact alike_pure rfl
    | ok actual =>
      dsimp only
      split
      · exact alike_pure rfl
      · split
        · exact alike_pure rfl
        · next hleft =>
          refine alike_rest _ fun late => ?_
          cases late with
          | none => exact alike_pure rfl
          | some late => exact ih _ (Nat.lt_of_lt_of_le (afterNap_lt hleft late) (Nat.sub_le _ _))

theorem alike_awaitText (l : Locator) (text : String) :
    (s.awaitText l text).run.Alike blind Eq (s'.awaitText l text).run := by
  unfold awaitText
  rw [hs]
  refine alike_bind (alike_locateWithin hs l _) ?_
  rintro e _ rfl
  cases e with
  | ok r => exact alike_readWithin hs l text r.1 r.2
  | error f => exact alike_pure rfl

theorem alike_assertVisible (l : Locator) :
    (s.assertVisible l).run.Alike blind Eq (s'.assertVisible l).run := by
  refine alike_attempt_bind (alike_tryCatch (alike_locate hs l) fun f => ?_) fun element =>
    alike_attempt_bind (alike_script hs (.isDisplayed element) rfl) fun shown => alike_expect _ _
  cases f <;> exact alike_pure rfl

theorem alike_assertNotVisible (l : Locator) :
    (s.assertNotVisible l).run.Alike blind Eq (s'.assertNotVisible l).run := by
  refine alike_attempt_bind (alike_script hs (.count l) rfl) fun present => ?_
  split
  · exact alike_pure rfl
  · refine alike_attempt_bind (alike_tryCatch
      (alike_attempt_map (alike_script hs (.find l) rfl)) fun f => ?_) fun element? => ?_
    · cases f <;> exact alike_pure rfl
    · cases element? with
      | none => exact alike_pure rfl
      | some element =>
        exact alike_attempt_bind (alike_script hs (.isDisplayed element) rfl) fun shown =>
          alike_expect _ _

theorem alike_perform (a : Action) : (s.perform a).run.Alike blind Eq (s'.perform a).run := by
  have onElement (l : Locator) {f g : Handle → Attempt Unit}
      (hfg : ∀ element, (f element).run.Alike blind Eq (g element).run) :
      (s.locate l >>= f).run.Alike blind Eq (s'.locate l >>= g).run :=
    alike_attempt_bind (alike_locate hs l) hfg
  cases a with
  | navigate url => exact alike_load hs (.navigate url) rfl
  | inputText l text =>
    exact onElement l fun e => alike_attempt_bind (alike_script hs (.clear e) rfl) fun _ =>
      alike_script hs (.typeText e text) rfl
  | click l => exact onElement l fun e => alike_script hs (.click e) rfl
  | doubleClick l => exact onElement l fun e => alike_script hs (.doubleClick e) rfl
  | rightClick l => exact onElement l fun e => alike_script hs (.contextClick e) rfl
  | hover l => exact onElement l fun e => alike_script hs (.hover e) rfl
  | clearText l => exact onElement l fun e => alike_script hs (.clear e) rfl
  | selectDropdown l option =>
    exact onElement l fun e => alike_script hs (.selectOption e option) rfl
  | assertElementText l expected =>
    exact onElement l fun e => alike_attempt_bind (alike_script hs (.textOf e) rfl) fun _ =>
      alike_expect _ _
  | assertElementCount l expected =>
    exact alike_attempt_bind (alike_script hs (.count l) rfl) fun _ => alike_expect _ _
  | assertElementVisible l => exact alike_assertVisible hs l
  | assertElementNotVisible l => exact alike_assertNotVisible hs l
  | assertElementAttribute l name expected =>
    exact onElement l fun e => alike_attempt_bind (alike_script hs (.attributeOf e name) rfl)
      fun _ => alike_expect _ _
  | assertUrlContains expected =>
    exact alike_attempt_bind (alike_script hs .currentUrl rfl) fun _ => alike_expect _ _
  | assertTitleContains expected =>
    exact alike_attempt_bind (alike_script hs .title rfl) fun _ => alike_expect _ _
  | waitForElement l => exact onElement l fun _ => alike_pure rfl
  | waitForText l text => exact alike_awaitText hs l text
  | refresh => exact alike_load hs .refresh rfl
  | back => exact alike_load hs .back rfl
  | forward => exact alike_load hs .forward rfl
  | wait span => exact alike_pause span

theorem alike_execute {step step' : Scenario.Step} (haction : step.action = step'.action)
    (hwait : step.waitTime = step'.waitTime) :
    (s.execute step).run.Alike blind Eq (s'.execute step').run := by
  unfold execute
  rw [haction, hwait]
  refine alike_attempt_bind (alike_perform hs step'.action) fun _ => ?_
  split
  · exact alike_pause step'.waitTime
  · exact alike_pure rfl

end Session

end Run

/-! ## Captures -/

namespace Capture.Recorder

open Browser Report Run

/-- Captures that an observer cannot tell apart. -/
def SameShot (blind : Bool) (a? b? : Option Artifact) : Prop :=
  maskArtifacts blind a?.toList = maskArtifacts blind b?.toList

/-- Whether a recording runs is seen by an observer who is not blind to captures. -/
def SameFlag (blind : Bool) (b b' : Bool) : Prop := blind = false → b = b'

/-- Recorders that differ in nothing but their sessions, as far as captures are seen. -/
def IsTwin (blind : Bool) (r r' : Recorder) : Prop :=
  blind = false → r' = { r with session := r'.session }

section Sighted

variable (r : Recorder) (n : Nat)

theorem alike_tryCall (c : Call) :
    (r.tryCall c).Alike false Eq ({ r with session := n }.tryCall c) := by
  refine alike_shielded r.session n r.limit rfl fun a => ?_
  match a with
  | none => exact alike_pure rfl
  | some (.ok b) => exact alike_pure rfl
  | some (.error f) => exact alike_pure rfl

theorem alike_persist (kind : ArtifactKind) (reason : Reason) (stepId attempt : Option Nat)
    (bytes : ByteArray) :
    (r.persist kind reason stepId attempt bytes).Alike false (SameShot false)
      ({ r with session := n }.persist kind reason stepId attempt bytes) := by
  refine alike_now fun m m' => ?_
  refine alike_ask (.store bytes bytes rfl) nofun nofun fun path path' h => ?_
  cases h with
  | store _ _ _ hpath =>
    cases path with
    | none =>
      cases path' with
      | none => exact alike_pure rfl
      | some b => cases hpath
    | some a =>
      cases path' with
      | none => cases hpath
      | some b => exact alike_pure rfl

theorem alike_screenshot (reason : Reason) (stepId attempt : Nat) :
    (r.screenshot reason stepId attempt).Alike false (SameShot false)
      ({ r with session := n }.screenshot reason stepId attempt) := by
  refine alike_bind (r.alike_tryCall n .screenshot) ?_
  rintro bytes? _ rfl
  cases bytes? with
  | none => exact alike_pure rfl
  | some bytes => exact r.alike_persist n _ _ _ _ _

theorem alike_startRecording :
    r.startRecording.Alike false Eq { r with session := n }.startRecording :=
  alike_bind (r.alike_tryCall n _) fun _ _ h => alike_pure (congrArg Option.isSome h)

theorem alike_stopRecording :
    r.stopRecording.Alike false Eq { r with session := n }.stopRecording := by
  refine alike_bind (r.alike_tryCall n .stopVideo) ?_
  rintro bytes? _ rfl
  cases bytes? with
  | none => exact alike_pure rfl
  | some bytes => exact alike_pure rfl

theorem alike_cut_sighted (recording : Bool) (stepId : Nat) :
    (r.cut recording stepId).Alike false (fun a b => SameShot false a.1 b.1 ∧ a.2 = b.2)
      ({ r with session := n }.cut recording stepId) := by
  refine alike_ite Iff.rfl ?_ (alike_pure ⟨rfl, rfl⟩)
  refine alike_bind (r.alike_stopRecording n) ?_
  rintro bytes? _ rfl
  have again {a? b? : Option Artifact} (h : SameShot false a? b?) :
      (r.startRecording >>= fun runs => pure (a?, runs)).Alike false
        (fun a b => SameShot false a.1 b.1 ∧ a.2 = b.2)
        ({ r with session := n }.startRecording >>= fun runs => pure (b?, runs)) :=
    alike_bind (r.alike_startRecording n) fun _ _ hruns => alike_pure ⟨h, hruns⟩
  cases bytes? with
  | none => exact again rfl
  | some bytes => exact alike_bind (r.alike_persist n _ _ _ _ _) fun _ _ h => again h

theorem alike_finish_sighted (recording : Bool) :
    (r.finish recording).Alike false
      (fun as bs => maskArtifacts false as = maskArtifacts false bs)
      ({ r with session := n }.finish recording) := by
  refine alike_ite Iff.rfl ?_ (alike_pure rfl)
  refine alike_bind (r.alike_stopRecording n) ?_
  rintro bytes? _ rfl
  cases bytes? with
  | none => exact alike_pure rfl
  | some bytes => exact alike_bind (r.alike_persist n _ _ _ _ _) fun _ _ h => alike_pure h

end Sighted

variable {blind : Bool} {r r' : Recorder}

/-- Nothing of captures is seen by who is blind to them. -/
theorem alike_blind {α β : Type} {R : α → β → Prop} {p : Program α} {q : Program β}
    (hp : p.Asks (Request.IsCapture r.session)) (hq : q.Asks (Request.IsCapture r'.session))
    (hR : ∀ a b, R a b) : p.Alike true R q :=
  alike_of_escapes (hp.mono fun _ => Request.IsCapture.escapes)
    (hq.mono fun _ => Request.IsCapture.escapes) hR

theorem alike_start (h : r.IsTwin blind r') : r.start.Alike blind (SameFlag blind) r'.start := by
  cases blind with
  | true =>
    exact alike_blind r.allows_isCapture.asks_start r'.allows_isCapture.asks_start fun _ _ => nofun
  | false =>
    rw [h rfl]
    exact alike_ite Iff.rfl ((r.alike_startRecording r'.session).mono fun _ _ hruns _ => hruns)
      (alike_pure fun _ => rfl)

theorem alike_passed (h : r.IsTwin blind r') {flagged flagged' : Bool}
    (hflag : SameFlag blind flagged flagged') (stepId attempt : Nat) :
    (r.passed stepId flagged attempt).Alike blind (SameShot blind)
      (r'.passed stepId flagged' attempt) := by
  cases blind with
  | true =>
    exact alike_blind (r.allows_isCapture.asks_passed _ _ _)
      (r'.allows_isCapture.asks_passed _ _ _) fun _ _ => rfl
  | false =>
    rw [h rfl, hflag rfl]
    exact alike_ite Iff.rfl (r.alike_screenshot r'.session _ _ _) (alike_pure rfl)

theorem alike_failed (h : r.IsTwin blind r') {flagged flagged' : Bool}
    (hflag : SameFlag blind flagged flagged') (stepId attempt : Nat) (terminal : Bool) :
    (r.failed stepId flagged attempt terminal).Alike blind (SameShot blind)
      (r'.failed stepId flagged' attempt terminal) := by
  cases blind with
  | true =>
    exact alike_blind (r.allows_isCapture.asks_failed _ _ _ _)
      (r'.allows_isCapture.asks_failed _ _ _ _) fun _ _ => rfl
  | false =>
    rw [h rfl, hflag rfl]
    exact alike_ite Iff.rfl (r.alike_screenshot r'.session _ _ _) (alike_pure rfl)

theorem alike_cut (h : r.IsTwin blind r') {recording recording' : Bool}
    (hflag : SameFlag blind recording recording') (stepId : Nat) :
    (r.cut recording stepId).Alike blind (fun a b => SameShot blind a.1 b.1 ∧ SameFlag blind a.2 b.2)
      (r'.cut recording' stepId) := by
  cases blind with
  | true =>
    exact alike_blind (r.allows_isCapture.asks_cut _ _) (r'.allows_isCapture.asks_cut _ _)
      fun _ _ => ⟨rfl, nofun⟩
  | false =>
    rw [h rfl, hflag rfl]
    exact (r.alike_cut_sighted r'.session _ _).mono fun _ _ hab => ⟨hab.1, fun _ => hab.2⟩

theorem alike_finish (h : r.IsTwin blind r') {recording recording' : Bool}
    (hflag : SameFlag blind recording recording') :
    (r.finish recording).Alike blind
      (fun as bs => maskArtifacts blind as = maskArtifacts blind bs) (r'.finish recording') := by
  cases blind with
  | true =>
    exact alike_blind (r.allows_isCapture.asks_finish _) (r'.allows_isCapture.asks_finish _)
      fun _ _ => rfl
  | false =>
    rw [h rfl, hflag rfl]
    exact r.alike_finish_sighted r'.session _

end Capture.Recorder

/-! ## Steps -/

/-- Steps that differ in nothing that is carried out, as far as it is seen. -/
structure Scenario.Step.IsTwin (blind : Bool) (step step' : Scenario.Step) : Prop where
  id : step.id = step'.id
  name : step.name = step'.name
  action : step.action = step'.action
  waitTime : step.waitTime = step'.waitTime
  screenshot : Capture.Recorder.SameFlag blind step.screenshot step'.screenshot

namespace Run

open Browser Report Capture.Recorder

namespace Performer

/-- Performers that differ in nothing but their sessions, as far as captures are seen. -/
structure IsTwin (blind : Bool) (p p' : Performer) : Prop where
  limits : p.session.limits = p'.session.limits
  recorder : p.recorder.IsTwin blind p'.recorder
  retries : p.retries = p'.retries

/-- Attempts that an observer cannot tell apart. -/
structure SameAttempt (blind : Bool) (a b : Attempted) : Prop where
  failure : a.failure = b.failure
  again : a.again = b.again
  shot? : SameShot blind a.shot? b.shot?

structure SameTried (blind : Bool) (a b : Tried) : Prop where
  attempts : a.attempts = b.attempts
  failure : a.failure = b.failure
  artifacts : maskArtifacts blind a.artifacts = maskArtifacts blind b.artifacts

variable {blind : Bool} {p p' : Performer} {step step' : Scenario.Step}

theorem alike_mayRetry (f : Failure) (left id next : Nat) :
    (mayRetry f left id next).Alike blind Eq (mayRetry f left id next) :=
  alike_ite Iff.rfl (alike_token _ fun _ => alike_pure rfl) (alike_pure rfl)

theorem alike_tryOnce (hp : p.IsTwin blind p') (hstep : step.IsTwin blind step')
    (left attempt : Nat) :
    (p.tryOnce step left attempt).Alike blind (SameAttempt blind)
      (p'.tryOnce step' left attempt) := by
  refine alike_bind (Session.alike_execute hp.limits hstep.action hstep.waitTime) ?_
  rintro e _ rfl
  cases e with
  | ok u =>
    rw [hstep.id]
    exact alike_bind (alike_passed hp.recorder hstep.screenshot _ _) fun _ _ hshot =>
      alike_pure ⟨rfl, rfl, hshot⟩
  | error f =>
    rw [hstep.id]
    refine alike_bind (alike_mayRetry f left step'.id (attempt + 1)) ?_
    rintro again _ rfl
    exact alike_bind (alike_failed hp.recorder hstep.screenshot _ _ _) fun _ _ hshot =>
      alike_pure ⟨rfl, rfl, hshot⟩

theorem alike_tryStep (hp : p.IsTwin blind p') (hstep : step.IsTwin blind step')
    (left attempt : Nat) {as bs : List Artifact}
    (h : maskArtifacts blind as = maskArtifacts blind bs) :
    (p.tryStep step left attempt as).Alike blind (SameTried blind)
      (p'.tryStep step' left attempt bs) := by
  induction left generalizing attempt as bs with
  | zero =>
    exact alike_bind (alike_tryOnce hp hstep 0 attempt) fun _ _ honce =>
      alike_pure ⟨rfl, honce.failure, maskArtifacts_append_congr h honce.shot?⟩
  | succ left ih =>
    refine alike_bind (alike_tryOnce hp hstep (left + 1) attempt) fun once once' honce => ?_
    have happend := maskArtifacts_append_congr h honce.shot?
    exact alike_ite (by rw [honce.again]) (ih (attempt + 1) happend)
      (alike_pure ⟨rfl, honce.failure, happend⟩)

theorem alike_tryUnless (hp : p.IsTwin blind p') (hstep : step.IsTwin blind step')
    (cancelled : Bool) :
    (p.tryUnless cancelled step).Alike blind (SameTried blind) (p'.tryUnless cancelled step') := by
  refine alike_ite Iff.rfl (alike_pure ⟨rfl, rfl, rfl⟩) ?_
  rw [hp.retries]
  exact alike_tryStep hp hstep _ 1 rfl

theorem alike_runStep (hp : p.IsTwin blind p') (hstep : step.IsTwin blind step')
    {recording recording' : Bool} (hflag : SameFlag blind recording recording') :
    (p.runStep recording step).Alike blind
      (fun a b => a.1.masked blind = b.1.masked blind ∧ SameFlag blind a.2 b.2)
      (p'.runStep recording' step') := by
  refine alike_now fun m m' => ?_
  rw [hstep.id]
  refine alike_token (.step step'.id) fun cancelled => ?_
  refine alike_bind (alike_tryUnless hp hstep cancelled) fun tried tried' htried => ?_
  refine alike_bind (alike_cut hp.recorder hflag step'.id) fun a b hab => ?_
  refine alike_now fun ended ended' => alike_pure ⟨?_, hab.2⟩
  have hartifacts := maskArtifacts_append_congr htried.artifacts hab.1
  simp only [StepResult.masked, hstep.name, hstep.action, htried.attempts, htried.failure,
    hartifacts]

theorem alike_skip (hstep : step.IsTwin blind step') :
    (skip step).Alike blind (fun a b => a.masked blind = b.masked blind) (skip step') := by
  refine alike_now fun m m' => alike_pure ?_
  simp only [StepResult.masked, hstep.id, hstep.name, hstep.action]

theorem alike_skipAll {steps steps' : List Scenario.Step}
    (h : List.Forall₂ (Scenario.Step.IsTwin blind) steps steps') :
    (skipAll steps).Alike blind
      (fun rs rs' => rs.map (StepResult.masked blind) = rs'.map (StepResult.masked blind))
      (skipAll steps') := by
  induction h with
  | nil => exact alike_pure rfl
  | cons hstep _ ih =>
    refine alike_bind (alike_skip hstep) fun r r' hr => ?_
    refine alike_bind ih fun rs rs' hrs => alike_pure ?_
    rw [List.map_cons, List.map_cons, hr, hrs]

theorem status_of_masked {r r' : StepResult} (h : r.masked blind = r'.masked blind) :
    r.status = r'.status :=
  (StepResult.mk.inj h).2.2.2.1

theorem alike_runSteps (hp : p.IsTwin blind p') {steps steps' : List Scenario.Step}
    (h : List.Forall₂ (Scenario.Step.IsTwin blind) steps steps') {recording recording' : Bool}
    (hflag : SameFlag blind recording recording') :
    (p.runSteps recording steps).Alike blind
      (fun a b => a.1.map (StepResult.masked blind) = b.1.map (StepResult.masked blind) ∧
        SameFlag blind a.2 b.2)
      (p'.runSteps recording' steps') := by
  induction h generalizing recording recording' with
  | nil => exact alike_pure ⟨rfl, hflag⟩
  | cons hstep hrest ih =>
    refine alike_bind (alike_runStep hp hstep hflag) ?_
    rintro ⟨r, after⟩ ⟨r', after'⟩ ⟨hr, hafter⟩
    refine alike_ite (by rw [status_of_masked hr]) ?_ ?_
    · refine alike_bind (ih hafter) ?_
      rintro ⟨rs, last⟩ ⟨rs', last'⟩ ⟨hrs, hlast⟩
      refine alike_pure ⟨?_, hlast⟩
      rw [List.map_cons, List.map_cons, hr, hrs]
    · refine alike_bind (alike_skipAll hrest) fun rs rs' hrs => alike_pure ⟨?_, hafter⟩
      rw [List.map_cons, List.map_cons, hr, hrs]

theorem alike_runAll (hp : p.IsTwin blind p') {steps steps' : List Scenario.Step}
    (h : List.Forall₂ (Scenario.Step.IsTwin blind) steps steps') :
    (p.runAll steps).Alike blind
      (fun a b => a.1.map (StepResult.masked blind) = b.1.map (StepResult.masked blind) ∧
        maskArtifacts blind a.2 = maskArtifacts blind b.2)
      (p'.runAll steps') := by
  refine alike_bind (alike_start hp.recorder) fun before before' hbefore => ?_
  refine alike_bind (alike_runSteps hp h hbefore) ?_
  rintro ⟨rs, after⟩ ⟨rs', after'⟩ ⟨hrs, hafter⟩
  exact alike_bind (alike_finish hp.recorder hafter) fun as bs has => alike_pure ⟨hrs, has⟩

end Performer

end Run

/-! ## Scenarios -/

/-- Definitions that differ in nothing that is carried out, as far as it is seen. -/
structure Scenario.Definition.IsTwin (blind : Bool) (d d' : Scenario.Definition) : Prop where
  name : blind = false → d.name = d'.name
  steps : List.Forall₂ (Scenario.Step.IsTwin blind) d.steps d'.steps

/-- Plans with the same limits and retries, that capture the same as far as it is seen. -/
structure Config.Plan.IsTwin (blind : Bool) (plan plan' : Config.Plan) : Prop where
  timeouts : plan.environment.timeouts = plan'.environment.timeouts
  retries : plan.master.framework.maxRetryAttempts = plan'.master.framework.maxRetryAttempts
  policy : blind = false →
    Capture.Policy.ofMaster plan.master = Capture.Policy.ofMaster plan'.master

theorem Scenario.Step.IsTwin.refl (blind : Bool) (step : Scenario.Step) : step.IsTwin blind step :=
  ⟨rfl, rfl, rfl, rfl, fun _ => rfl⟩

theorem Scenario.Definition.IsTwin.refl (blind : Bool) (d : Scenario.Definition) :
    d.IsTwin blind d :=
  ⟨fun _ => rfl, List.forall₂_same.2 fun step _ => .refl blind step⟩

namespace Run

open Browser Report Capture.Recorder

section Scenario

variable {blind : Bool} {plan plan' : Config.Plan} {tree tree' : Files.Tree}
  {entry : Config.Entry} {d d' : Scenario.Definition}

theorem isTwin_performer (hplan : plan.IsTwin blind plan') (hd : d.IsTwin blind d')
    (session session' : Nat) :
    (performer plan d.name session).IsTwin blind (performer plan' d'.name session') where
  limits := congrArg Limits.ofTimeouts hplan.timeouts
  recorder hblind := by
    simp only [performer, hplan.policy hblind, hd.name hblind, hplan.timeouts]
  retries := hplan.retries

theorem statusOf_of_masked {rs rs' : List StepResult}
    (h : rs.map (StepResult.masked blind) = rs'.map (StepResult.masked blind)) :
    ScenarioResult.statusOf rs = ScenarioResult.statusOf rs' := by
  have hmask (rs : List StepResult) :
      ScenarioResult.statusOf (rs.map (StepResult.masked blind)) = ScenarioResult.statusOf rs := by
    rw [ScenarioResult.statusOf, List.isEmpty_map, List.all_map]
    rfl
  rw [← hmask rs, h, hmask]

theorem alike_inSession (hplan : plan.IsTwin blind plan') (hd : d.IsTwin blind d')
    (entry : Config.Entry) (started started' : Moment) (session session' : Nat) :
    (inSession plan entry started d session).Alike blind
      (fun r r' => r.masked blind = r'.masked blind)
      (inSession plan' entry started' d' session') := by
  refine alike_bind
    (Performer.alike_runAll (isTwin_performer hplan hd session session') hd.steps) ?_
  rintro ⟨rs, as⟩ ⟨rs', as'⟩ ⟨hrs, has⟩
  refine alike_shielded session session' closeLimit (Call.isSeen_of_page rfl blind) fun _ => ?_
  refine alike_now fun ended ended' => alike_pure ?_
  dsimp only at hrs has
  simp only [ScenarioResult.masked, hrs, has, statusOf_of_masked hrs]

theorem alike_abort (entry : Config.Entry) (started started' : Moment) (f : Failure) :
    (abort entry started f).Alike blind (fun r r' => r.masked blind = r'.masked blind)
      (abort entry started' f) :=
  alike_now fun _ _ => alike_pure rfl

theorem alike_openSession :
    openSession.run.Alike blind
      (fun e e' => e.isOk = e'.isOk ∧ ∀ f, e = .error f ↔ e' = .error f) openSession.run := by
  refine alike_ask .openSession id id fun a a' h => ?_
  cases h with
  | unopened => exact alike_pure ⟨rfl, fun _ => Iff.rfl⟩
  | refused f => exact alike_pure ⟨rfl, fun _ => Iff.rfl⟩
  | opened s s' => exact alike_pure ⟨rfl, fun f => ⟨nofun, nofun⟩⟩

/-- What comes of loading a scenario. -/
inductive LoadsTwin (blind : Bool) :
    Except Failure Scenario.Definition → Except Failure Scenario.Definition → Prop where
  | refused (f : Failure) : LoadsTwin blind (.error f) (.error f)
  | loaded {d d' : Scenario.Definition} : d.IsTwin blind d' → LoadsTwin blind (.ok d) (.ok d')

theorem LoadsTwin.refl (blind : Bool) (e : Except Failure Scenario.Definition) :
    LoadsTwin blind e e := by
  cases e with
  | ok d => exact .loaded (.refl blind d)
  | error f => exact .refused f

/-- A scenario comes to the same, as far as it is seen, in every session. -/
theorem alike_scenario (hplan : plan.IsTwin blind plan') (entry : Config.Entry)
    (hload : LoadsTwin blind (Scenario.load plan.environment tree entry)
      (Scenario.load plan'.environment tree' entry)) :
    (scenario plan tree entry).Alike blind (fun r r' => r.masked blind = r'.masked blind)
      (scenario plan' tree' entry) := by
  refine alike_now fun started started' => ?_
  generalize Scenario.load plan.environment tree entry = e at hload
  generalize Scenario.load plan'.environment tree' entry = e' at hload
  cases hload with
  | refused f => exact alike_abort entry started started' f
  | loaded hd =>
    refine alike_bind alike_openSession fun e e' h => ?_
    obtain ⟨hok, herror⟩ := h
    cases e with
    | ok session =>
      cases e' with
      | ok session' => exact alike_inSession hplan hd entry started started' session session'
      | error f => cases hok
    | error f =>
      rw [(herror f).1 rfl]
      exact alike_abort entry started started' f

end Scenario

end Run
end Walkthrough
