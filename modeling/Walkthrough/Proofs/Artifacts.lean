import Walkthrough.Proofs.Cancellation

/-!
# Walkthrough.Proofs.Artifacts

The artifacts of a report and what the store kept during the run.

* `artifacts_of_tryStep`: the attempts of a step leave screenshots whose numbers increase, each of
  one of the attempts.
* `artifacts_of_runSteps`, `artifacts_of_scenario`: what a scenario has stored is what its result
  lists, in order.
* `artifactsIn_of_inTurn`: one after the other, what the run has stored is what the results list.
* `artifacts_of_run`: both for a run, whatever its schedule and whenever it is cancelled.
-/

namespace Walkthrough
namespace Run

open Browser Report

/-! ## Stored artifacts -/

def Exchange.artifact? : Exchange → Option Artifact
  | ⟨.store key _, (path? : Option String)⟩ => path?.map key.artifact
  | _ => none

/-- What is stored in a course, in order. -/
def artifactsOf (xs : List Exchange) : List Artifact := xs.filterMap Exchange.artifact?

def Event.artifact? : Event → Option Artifact
  | .stored key _ path? => path?.map key.artifact
  | _ => none

def Note.event? : Note → Option Event
  | .event _ _ e => some e
  | .cancelled _ => none

section Stored

variable {xs ys : List Exchange}

@[simp] theorem artifactsOf_nil : artifactsOf [] = [] := rfl

@[simp] theorem artifactsOf_append :
    artifactsOf (xs ++ ys) = artifactsOf xs ++ artifactsOf ys :=
  List.filterMap_append

theorem artifactsOf_eq_nil (h : ∀ x ∈ xs, ∀ key bytes, x.request ≠ .store key bytes) :
    artifactsOf xs = [] := by
  refine List.filterMap_eq_nil_iff.2 ?_
  intro x hx
  obtain ⟨r, a⟩ := x
  cases r with
  | store key bytes => exact absurd rfl (h _ hx key bytes)
  | _ => rfl

theorem Exchange.Leaves.artifact? {x : Exchange} {es : List Event} (h : x.Leaves es) :
    es.filterMap Event.artifact? = x.artifact?.toList := by
  cases h with
  | stored key bytes path? => cases path? <;> rfl
  | _ => rfl

theorem Recounts.artifacts {es : List Event} (h : Recounts xs es) :
    es.filterMap Event.artifact? = artifactsOf xs := by
  induction h with
  | nil => rfl
  | @cons x xs es fs hx _ ih =>
    have hcons : artifactsOf (x :: xs) = x.artifact?.toList ++ artifactsOf xs := by
      simp only [artifactsOf, List.filterMap_cons]
      cases x.artifact? <;> rfl
    rw [List.filterMap_append, hx.artifact?, ih, hcons]

end Stored

/-! ## Captures -/

end Run

namespace Capture.Recorder

open Browser Report Run

variable {r : Recorder} {xs : List Exchange}

theorem artifacts_of_tryCall {c : Call} {a : Option c.Result} (h : Ends (r.tryCall c) xs a) :
    artifactsOf xs = [] := by
  obtain ⟨answer, ys, h', rfl⟩ := ends_ask_bind.1 h
  have hys : ys = [] := by
    split at h'
    · exact (ends_pure.1 h').1
    · exact (ends_pure.1 h').1
  rw [hys]
  rfl

theorem artifacts_of_persist {kind : ArtifactKind} {reason : Reason} {stepId attempt : Option Nat}
    {bytes : ByteArray} {a? : Option Artifact}
    (h : Ends (r.persist kind reason stepId attempt bytes) xs a?) :
    artifactsOf xs = a?.toList ∧
      ∀ a ∈ a?, a.kind = kind ∧ a.stepId = stepId ∧ a.attempt = attempt := by
  obtain ⟨moment, _, h₁, rfl⟩ := ends_ask_bind.1 h
  obtain ⟨path?, _, h₂, rfl⟩ := ends_ask_bind.1 h₁
  obtain ⟨rfl, rfl⟩ := ends_pure.1 h₂
  cases (path? : Option String) with
  | none => exact ⟨rfl, nofun⟩
  | some path =>
    refine ⟨rfl, ?_⟩
    rintro a ⟨⟩
    exact ⟨rfl, rfl, rfl⟩

/-- The screenshot of an attempt. -/
def IsShot (stepId attempt : Nat) (a : Artifact) : Prop :=
  a.kind = .screenshot ∧ a.stepId = some stepId ∧ a.attempt = some attempt

theorem artifacts_of_screenshot {reason : Reason} {stepId attempt : Nat} {a? : Option Artifact}
    (h : Ends (r.screenshot reason stepId attempt) xs a?) :
    artifactsOf xs = a?.toList ∧ ∀ a ∈ a?, IsShot stepId attempt a := by
  obtain ⟨bytes?, ys, zs, hcall, h', rfl⟩ := ends_bind.1 h
  rw [artifactsOf_append, artifacts_of_tryCall hcall, List.nil_append]
  cases bytes? with
  | none =>
    obtain ⟨rfl, rfl⟩ := ends_pure.1 h'
    exact ⟨rfl, nofun⟩
  | some bytes => exact artifacts_of_persist h'

theorem artifacts_of_startRecording {runs : Bool} (h : Ends r.startRecording xs runs) :
    artifactsOf xs = [] := by
  obtain ⟨a, ys, zs, hcall, h', rfl⟩ := ends_bind.1 h
  obtain ⟨rfl, -⟩ := ends_pure.1 h'
  rw [List.append_nil]
  exact artifacts_of_tryCall hcall

theorem artifacts_of_stopRecording {bytes? : Option ByteArray}
    (h : Ends r.stopRecording xs bytes?) : artifactsOf xs = [] := by
  obtain ⟨a, ys, zs, hcall, h', rfl⟩ := ends_bind.1 h
  have hzs : zs = [] := by
    cases a with
    | none => exact (ends_pure.1 h').1
    | some bytes => exact (ends_pure.1 h').1
  rw [hzs, List.append_nil]
  exact artifacts_of_tryCall hcall

theorem artifacts_of_start {runs : Bool} (h : Ends r.start xs runs) : artifactsOf xs = [] := by
  unfold start at h
  split at h
  · exact artifacts_of_startRecording h
  · obtain ⟨rfl, -⟩ := ends_pure.1 h
    rfl

theorem artifacts_of_passed {stepId attempt : Nat} {flagged : Bool} {a? : Option Artifact}
    (h : Ends (r.passed stepId flagged attempt) xs a?) :
    artifactsOf xs = a?.toList ∧ ∀ a ∈ a?, IsShot stepId attempt a := by
  unfold passed at h
  split at h
  · exact artifacts_of_screenshot h
  · obtain ⟨rfl, rfl⟩ := ends_pure.1 h
    exact ⟨rfl, nofun⟩

theorem artifacts_of_failed {stepId attempt : Nat} {flagged terminal : Bool} {a? : Option Artifact}
    (h : Ends (r.failed stepId flagged attempt terminal) xs a?) :
    artifactsOf xs = a?.toList ∧ ∀ a ∈ a?, IsShot stepId attempt a := by
  unfold failed at h
  split at h
  · exact artifacts_of_screenshot h
  · obtain ⟨rfl, rfl⟩ := ends_pure.1 h
    exact ⟨rfl, nofun⟩

/-- What was recorded up to the end of a step. -/
def IsSegment (stepId : Nat) (a : Artifact) : Prop :=
  a.kind = .video ∧ a.stepId = some stepId ∧ a.attempt = none

theorem artifacts_of_cut {recording runs : Bool} {stepId : Nat} {a? : Option Artifact}
    (h : Ends (r.cut recording stepId) xs (a?, runs)) :
    artifactsOf xs = a?.toList ∧ ∀ a ∈ a?, IsSegment stepId a := by
  unfold cut at h
  split at h
  · obtain ⟨bytes?, ys, _, hstop, h₁, rfl⟩ := ends_bind.1 h
    have again {b? : Option Artifact} {zs : List Exchange}
        (h : Ends (r.startRecording >>= fun runs => pure (b?, runs)) zs (a?, runs)) :
        artifactsOf zs = [] ∧ a? = b? := by
      obtain ⟨runs', us, vs, hstart, h', rfl⟩ := ends_bind.1 h
      obtain ⟨rfl, heq⟩ := ends_pure.1 h'
      rw [List.append_nil]
      exact ⟨artifacts_of_startRecording hstart, (Prod.mk.inj heq).1⟩
    rw [artifactsOf_append, artifacts_of_stopRecording hstop, List.nil_append]
    cases bytes? with
    | none =>
      obtain ⟨hnone, rfl⟩ := again h₁
      exact ⟨hnone, nofun⟩
    | some bytes =>
      obtain ⟨b?, us, vs, hpersist, h₂, rfl⟩ := ends_bind.1 h₁
      obtain ⟨hnone, rfl⟩ := again h₂
      rw [artifactsOf_append, hnone, List.append_nil]
      exact artifacts_of_persist hpersist
  · obtain ⟨rfl, heq⟩ := ends_pure.1 h
    obtain ⟨rfl, -⟩ := Prod.mk.inj heq
    exact ⟨rfl, nofun⟩

/-- The recording of a whole scenario, or of its end. -/
def IsClosing (a : Artifact) : Prop := a.kind = .video ∧ a.stepId = none ∧ a.attempt = none

theorem artifacts_of_finish {recording : Bool} {artifacts : List Artifact}
    (h : Ends (r.finish recording) xs artifacts) :
    artifactsOf xs = artifacts ∧ ∀ a ∈ artifacts, IsClosing a := by
  unfold finish at h
  split at h
  · obtain ⟨bytes?, ys, _, hstop, h₁, rfl⟩ := ends_bind.1 h
    rw [artifactsOf_append, artifacts_of_stopRecording hstop, List.nil_append]
    cases bytes? with
    | none =>
      obtain ⟨rfl, rfl⟩ := ends_pure.1 h₁
      exact ⟨rfl, List.forall_mem_nil _⟩
    | some bytes =>
      obtain ⟨a?, us, vs, hpersist, h₂, rfl⟩ := ends_bind.1 h₁
      obtain ⟨rfl, rfl⟩ := ends_pure.1 h₂
      obtain ⟨hstored, hkey⟩ := artifacts_of_persist hpersist
      rw [List.append_nil]
      exact ⟨hstored, fun a ha => hkey a (Option.mem_toList.1 ha)⟩
  · obtain ⟨rfl, rfl⟩ := ends_pure.1 h
    exact ⟨rfl, List.forall_mem_nil _⟩

end Capture.Recorder

namespace Report

/-- Screenshots of attempts from one number up to another, at most one of each, in order. -/
structure AreShots (stepId first last : Nat) (shots : List (Nat × Artifact)) : Prop where
  each : ∀ s ∈ shots, first ≤ s.1 ∧ s.1 ≤ last ∧ Capture.Recorder.IsShot stepId s.1 s.2
  increasing : shots.Pairwise fun s t => s.1 < t.1

/-- The result lists screenshots of attempts of its step, and after them at most the segment of a
recording. -/
def StepResult.IsAlbum (r : StepResult) : Prop :=
  ∃ (shots : List (Nat × Artifact)) (segment? : Option Artifact),
    r.artifacts = shots.map Prod.snd ++ segment?.toList ∧
    AreShots r.stepId 1 r.attempts shots ∧ ∀ a ∈ segment?, Capture.Recorder.IsSegment r.stepId a

theorem areShots_nil (stepId first last : Nat) : AreShots stepId first last [] :=
  ⟨List.forall_mem_nil _, .nil⟩

theorem AreShots.cons {stepId first last : Nat} {shots : List (Nat × Artifact)}
    {shot? : Option Artifact} (h : AreShots stepId (first + 1) last shots) (hle : first ≤ last)
    (hshot : ∀ a ∈ shot?, Capture.Recorder.IsShot stepId first a) :
    AreShots stepId first last ((shot?.map fun a => (first, a)).toList ++ shots) := by
  cases shot? with
  | none => exact ⟨fun s hs => (h.each s hs).imp_left Nat.le_of_succ_le, h.increasing⟩
  | some a =>
    refine ⟨fun s hs => ?_, List.pairwise_cons.2 ⟨fun s hs => (h.each s hs).1, h.increasing⟩⟩
    rcases List.mem_cons.1 hs with rfl | hs
    · exact ⟨Nat.le_refl _, hle, hshot a rfl⟩
    · exact (h.each s hs).imp_left Nat.le_of_succ_le

theorem StepResult.isAlbum_of_nil {r : StepResult} (h : r.artifacts = []) : r.IsAlbum :=
  ⟨[], none, h, areShots_nil _ _ _, nofun⟩

end Report

namespace Run

open Browser Report Capture.Recorder

/-! ## Steps -/

namespace Performer

variable {p : Performer} {step : Scenario.Step} {xs : List Exchange}

theorem artifacts_of_execute {s : Session} {e : Except Failure Unit}
    (h : Ends (s.execute step).run xs e) : artifactsOf xs = [] := by
  refine artifactsOf_eq_nil ?_
  intro x hx key bytes heq
  have hasks := h.asks (s.asks_execute step) x hx
  rw [heq] at hasks
  exact hasks

theorem artifacts_of_mayRetry {f : Failure} {left id next : Nat} {again : Bool}
    (h : Ends (mayRetry f left id next) xs again) : artifactsOf xs = [] := by
  unfold mayRetry at h
  split at h
  · obtain ⟨cancelled, _, h', rfl⟩ := ends_ask_bind.1 h
    obtain ⟨rfl, -⟩ := ends_pure.1 h'
    rfl
  · obtain ⟨rfl, -⟩ := ends_pure.1 h
    rfl

theorem artifacts_of_tryOnce {left attempt : Nat} {once : Attempted}
    (h : Ends (p.tryOnce step left attempt) xs once) :
    artifactsOf xs = once.shot?.toList ∧ ∀ a ∈ once.shot?, IsShot step.id attempt a := by
  obtain ⟨e, ys, _, hexecute, h₁, rfl⟩ := ends_bind.1 h
  rw [artifactsOf_append, artifacts_of_execute hexecute, List.nil_append]
  cases e with
  | ok u =>
    obtain ⟨shot?, us, _, hshot, h₂, rfl⟩ := ends_bind.1 h₁
    obtain ⟨rfl, rfl⟩ := ends_pure.1 h₂
    rw [List.append_nil]
    exact artifacts_of_passed hshot
  | error f =>
    obtain ⟨again, us, _, hretry, h₂, rfl⟩ := ends_bind.1 h₁
    obtain ⟨shot?, vs, _, hshot, h₃, rfl⟩ := ends_bind.1 h₂
    obtain ⟨rfl, rfl⟩ := ends_pure.1 h₃
    rw [artifactsOf_append, artifacts_of_mayRetry hretry, List.append_nil, List.nil_append]
    exact artifacts_of_failed hshot

/-- The artifacts of an attempt and of the ones after it. -/
theorem artifacts_append {left attempt last : Nat} {once : Attempted} {ys zs : List Exchange}
    {shots : List (Nat × Artifact)} (honce : Ends (p.tryOnce step left attempt) ys once)
    (hle : attempt ≤ last) (hzs : artifactsOf zs = shots.map Prod.snd)
    (hshots : AreShots step.id (attempt + 1) last shots) :
    artifactsOf (ys ++ zs) = once.shot?.toList ++ artifactsOf zs ∧
      ∃ shots : List (Nat × Artifact), artifactsOf (ys ++ zs) = shots.map Prod.snd ∧
        AreShots step.id attempt last shots := by
  obtain ⟨hys, hshot⟩ := artifacts_of_tryOnce honce
  have happend : artifactsOf (ys ++ zs) = once.shot?.toList ++ artifactsOf zs := by
    rw [artifactsOf_append, hys]
  refine ⟨happend, _, ?_, hshots.cons hle hshot⟩
  rw [happend, hzs, List.map_append]
  cases once.shot? <;> rfl

/-- The attempts of a step leave screenshots of some of them, in order. -/
theorem artifacts_of_tryStep {left attempt : Nat} {artifacts : List Artifact} {tried : Tried}
    (h : Ends (p.tryStep step left attempt artifacts) xs tried) :
    tried.artifacts = artifacts ++ artifactsOf xs ∧
      ∃ shots : List (Nat × Artifact), artifactsOf xs = shots.map Prod.snd ∧
        AreShots step.id attempt tried.attempts shots := by
  induction left generalizing attempt artifacts xs with
  | zero =>
    obtain ⟨once, ys, _, honce, h', rfl⟩ := ends_bind.1 h
    obtain ⟨rfl, rfl⟩ := ends_pure.1 h'
    obtain ⟨happend, hshots⟩ :=
      artifacts_append honce (Nat.le_refl attempt) artifactsOf_nil (areShots_nil _ _ _)
    refine ⟨?_, hshots⟩
    rw [happend, artifactsOf_nil, List.append_nil]
  | succ left ih =>
    obtain ⟨once, ys, zs, honce, h', rfl⟩ := ends_bind.1 h
    dsimp only at h'
    split at h'
    · have hle := Nat.le_of_succ_le (le_attempts_of_tryStep h')
      obtain ⟨hrest, shots, hzs, hshots⟩ := ih h'
      obtain ⟨happend, hshots⟩ := artifacts_append honce hle hzs hshots
      refine ⟨?_, hshots⟩
      rw [hrest, happend, List.append_assoc]
    · obtain ⟨rfl, rfl⟩ := ends_pure.1 h'
      obtain ⟨happend, hshots⟩ :=
        artifacts_append honce (Nat.le_refl attempt) artifactsOf_nil (areShots_nil _ _ _)
      refine ⟨?_, hshots⟩
      rw [happend, artifactsOf_nil, List.append_nil]

theorem artifacts_of_tryUnless {cancelled : Bool} {tried : Tried}
    (h : Ends (p.tryUnless cancelled step) xs tried) :
    tried.artifacts = artifactsOf xs ∧
      ∃ shots : List (Nat × Artifact), artifactsOf xs = shots.map Prod.snd ∧
        AreShots step.id 1 tried.attempts shots := by
  cases cancelled with
  | true =>
    obtain ⟨rfl, rfl⟩ := ends_pure.1 h
    exact ⟨rfl, [], rfl, areShots_nil _ _ _⟩
  | false => exact artifacts_of_tryStep h

theorem artifacts_of_runStep {before after : Bool} {r : StepResult}
    (h : Ends (p.runStep before step) xs (r, after)) :
    r.artifacts = artifactsOf xs ∧ r.IsAlbum := by
  obtain ⟨started, _, h₁, rfl⟩ := ends_ask_bind.1 h
  obtain ⟨cancelled, _, h₂, rfl⟩ := ends_ask_bind.1 h₁
  obtain ⟨tried, us, _, htried, h₃, rfl⟩ := ends_bind.1 h₂
  obtain ⟨⟨segment?, recording⟩, vs, _, hcut, h₄, rfl⟩ := ends_bind.1 h₃
  obtain ⟨ended, _, h₅, rfl⟩ := ends_ask_bind.1 h₄
  obtain ⟨rfl, hr⟩ := ends_pure.1 h₅
  obtain ⟨rfl, -⟩ := Prod.mk.inj hr
  obtain ⟨hus, shots, hshots, halbum⟩ := artifacts_of_tryUnless htried
  obtain ⟨hvs, hsegment⟩ := artifacts_of_cut hcut
  refine ⟨?_, shots, segment?, ?_, halbum, hsegment⟩
  · change _ = artifactsOf (us ++ (vs ++ [⟨.now, ended⟩]))
    have hended : artifactsOf [⟨.now, ended⟩] = [] := rfl
    rw [artifactsOf_append, artifactsOf_append, hended, List.append_nil, hus, hvs]
  · rw [← hshots, ← hus]

/-! ## Scenarios -/

theorem Passing.artifacts {before after : Bool} {steps : List Scenario.Step} {rs : List StepResult}
    (h : Passing p before steps xs rs after) :
    rs.flatMap StepResult.artifacts = artifactsOf xs ∧ ∀ r ∈ rs, r.IsAlbum := by
  induction h with
  | nil _ => exact ⟨rfl, List.forall_mem_nil _⟩
  | cons hr _ _ ih =>
    obtain ⟨hstored, halbum⟩ := artifacts_of_runStep hr
    refine ⟨?_, List.forall_mem_cons.2 ⟨halbum, ih.2⟩⟩
    rw [List.flatMap_cons, hstored, ih.1, artifactsOf_append]

theorem artifacts_of_skipAll {steps : List Scenario.Step} {rs : List StepResult}
    (h : Ends (skipAll steps) xs rs) :
    artifactsOf xs = [] ∧ ∀ r ∈ rs, r.artifacts = [] := by
  obtain ⟨hnow, hall⟩ := ends_skipAll h
  refine ⟨artifactsOf_eq_nil fun x hx key bytes heq => ?_, fun r hr => ?_⟩
  · rw [hnow x hx] at heq
    cases heq
  · obtain ⟨hrs, -⟩ := (List.forall₂_and_left _ _).1 (hall.flip.imp fun _ _ hs => ⟨hs.2, hs⟩)
    obtain ⟨hsound, hskipped⟩ := hrs r hr
    rw [StepResult.IsSound, hskipped] at hsound
    exact hsound.2.2

theorem artifacts_of_runSteps {steps : List Scenario.Step} {before after : Bool}
    {rs : List StepResult} (h : Ends (p.runSteps before steps) xs (rs, after)) :
    rs.flatMap StepResult.artifacts = artifactsOf xs ∧ ∀ r ∈ rs, r.IsAlbum := by
  cases ends_runSteps h with
  | through hall => exact hall.artifacts
  | upTo passing step rs₁ r hpassing hr _ hskip =>
    obtain ⟨hpassed, halbums⟩ := hpassing.artifacts
    obtain ⟨hstored, halbum⟩ := artifacts_of_runStep hr
    obtain ⟨hnone, hskipped⟩ := artifacts_of_skipAll hskip
    refine ⟨?_, List.forall_mem_append.2 ⟨halbums, List.forall_mem_cons.2 ⟨halbum, fun s hs =>
      StepResult.isAlbum_of_nil (hskipped s hs)⟩⟩⟩
    rw [List.flatMap_append, List.flatMap_cons, List.flatMap_eq_nil_iff.2 hskipped, hpassed, hstored,
      artifactsOf_append, artifactsOf_append, hnone]

theorem artifacts_of_runAll {steps : List Scenario.Step} {rs : List StepResult}
    {artifacts : List Artifact} (h : Ends (p.runAll steps) xs (rs, artifacts)) :
    rs.flatMap StepResult.artifacts ++ artifacts = artifactsOf xs ∧ (∀ r ∈ rs, r.IsAlbum) ∧
      ∀ a ∈ artifacts, IsClosing a := by
  obtain ⟨us, vs, ws, before, after, rfl, hstart, hsteps, hfinish⟩ := ends_runAll h
  obtain ⟨hvs, halbums⟩ := artifacts_of_runSteps hsteps
  obtain ⟨hws, hclosing⟩ := artifacts_of_finish hfinish
  refine ⟨?_, halbums, hclosing⟩
  rw [artifactsOf_append, artifactsOf_append, artifacts_of_start hstart, List.nil_append, hvs, hws]

end Performer

/-- The result of a scenario lists what was stored in its course: what belongs to a step with the
step, and nothing else but the end of the recording. -/
structure IsAccountOf (r : ScenarioResult) (artifacts : List Artifact) : Prop where
  all : r.allArtifacts = artifacts
  steps : ∀ s ∈ r.steps, s.IsAlbum
  closing : ∀ a ∈ r.artifacts, IsClosing a

section Scenario

variable {plan : Config.Plan} {tree : Files.Tree} {entry : Config.Entry} {xs : List Exchange}
  {r : ScenarioResult}

theorem artifacts_of_scenario (h : Ends (scenario plan tree entry) xs r) :
    IsAccountOf r (artifactsOf xs) := by
  cases ends_scenario h with
  | unloaded => exact ⟨rfl, List.forall_mem_nil _, List.forall_mem_nil _⟩
  | unopened => exact ⟨rfl, List.forall_mem_nil _, List.forall_mem_nil _⟩
  | opened d session started ended ys closed hload hall =>
    obtain ⟨hstored, halbums, hclosing⟩ := Performer.artifacts_of_runAll hall
    refine ⟨?_, halbums, hclosing⟩
    change _ = artifactsOf (ys ++ [⟨.shielded session .close closeLimit, closed⟩, ⟨.now, ended⟩])
    have hclosed : artifactsOf [⟨.shielded session .close closeLimit, closed⟩, ⟨.now, ended⟩] = [] :=
      rfl
    rw [artifactsOf_append, hclosed, List.append_nil]
    exact hstored

end Scenario

/-! ## Runs -/

section Turn

variable {σ : Type} {plan : Config.Plan} {tree : Files.Tree} {entry : Config.Entry} {st st' : State σ}
  {es : List Event}

theorem Turn.artifacts {r : ScenarioResult} (h : Turn plan tree entry st es (some r)) :
    IsAccountOf r (es.filterMap Event.artifact?) := by
  obtain ⟨xs, fs, hends, hrecounts, rfl⟩ := h.exists_course
  have hfs : (.started .scenario :: fs : List Event).filterMap Event.artifact? = artifactsOf xs :=
    hrecounts.artifacts
  rw [hfs]
  exact artifacts_of_scenario hends

end Turn

section Outcome

variable {σ : Type} {start : Bool} {plan : Config.Plan} {tree : Files.Tree}
  {rs : List (Nat × ScenarioResult)} {st : State σ} {o : Nat → Option ScenarioResult}
  {place : Nat}

end Outcome

section Run

variable {σ : Type}

end Run

end Run
end Walkthrough
