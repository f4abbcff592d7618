import Walkthrough.Proofs.Scenario

/-!
# Walkthrough.Proofs.Recordings

Recordings are started and stopped in pairs, whatever the browser, the store and the clock answer.

Of all that a course consists of, only the calls that start or stop a recording matter here. They
take the recorder from one state to another, and `Tracks` says from which to which. A stop is made
while a recording runs and at no other time.

* `tracks_cut`, `tracks_finish`: each operation of a recorder keeps to that.
* `tracks_operateAll`: so does every sequence of them, and the recorder knows whether its last start
  succeeded.
* `tracks_runAll`: a scenario starts no recording while one runs, and none runs at its end.
* `recordings_paired`: both, told of the calls themselves.
-/

namespace Walkthrough
namespace Run

open Browser Report

/-! ## Calls that concern a recording -/

/-- What is done to a recording. -/
inductive Video where
  /-- A start; does a recording run now? -/
  | start (runs : Bool)
  | stop
deriving DecidableEq, Repr

/-- What a call does to a recording when it succeeds, and when it does not. -/
def videoOf? (succeeds : Bool) : Call → Option Video
  | .startVideo _ => some (.start succeeds)
  | .stopVideo => some .stop
  | _ => none

/-- Did a call with a limit succeed? -/
def Ending.succeeds {α : Type} : Ending α → Bool
  | .answered (.ok _) => true
  | _ => false

/-- What a call gave that is made whether or not the run is cancelled. -/
def given? {α : Type} : Option (Except Browser.Fault α) → Option α
  | some (.ok a) => some a
  | _ => none

def Exchange.video? : Exchange → Option Video
  | ⟨.call _ c _, (answer : Ending c.Result × Nat)⟩ => videoOf? answer.1.succeeds c
  | ⟨.shielded _ c _, (answer : Option (Except Browser.Fault c.Result))⟩ =>
    videoOf? (given? answer).isSome c
  | _ => none

/-- All that is done to recordings in a course. -/
def videosOf (xs : List Exchange) : List Video := xs.filterMap Exchange.video?

theorem videosOf_append (xs ys : List Exchange) :
    videosOf (xs ++ ys) = videosOf xs ++ videosOf ys :=
  List.filterMap_append

theorem videosOf_cons_of_none {x : Exchange} (h : x.video? = none) (xs : List Exchange) :
    videosOf (x :: xs) = videosOf xs :=
  List.filterMap_cons_none h

/-- A request that leaves recordings alone. -/
def Request.IsQuiet (r : Request) : Prop :=
  ∀ session c, r.call? = some (session, c) → ∀ succeeds, videoOf? succeeds c = none

theorem Exchange.video?_of_isQuiet {x : Exchange} (h : x.request.IsQuiet) : x.video? = none := by
  obtain ⟨r, answer⟩ := x
  cases r with
  | call session c limit => exact h session c rfl _
  | shielded session c limit => exact h session c rfl _
  | _ => rfl

theorem videosOf_eq_nil {xs : List Exchange} (h : ∀ x ∈ xs, x.request.IsQuiet) :
    videosOf xs = [] :=
  List.filterMap_eq_nil_iff.2 fun x hx => Exchange.video?_of_isQuiet (h x hx)

theorem Request.isQuiet_of_none {r : Request} (h : r.call? = none) : r.IsQuiet := by
  intro session c hc
  rw [h] at hc
  cases hc

theorem Request.IsOnPage.isQuiet {session : Nat} {r : Request} (h : r.IsOnPage session) :
    r.IsQuiet := by
  cases r with
  | call s c limit =>
    rintro _ _ ⟨⟩ succeeds
    have hc := h.2
    cases c <;> first | rfl | cases hc
  | rest span => exact Request.isQuiet_of_none rfl
  | _ => exact h.elim

theorem Ends.videosOf_eq_nil {α : Type} {p : Program α} {xs : List Exchange} {a : α}
    (h : Ends p xs a) (hp : p.Asks Request.IsQuiet) : videosOf xs = [] :=
  Run.videosOf_eq_nil (Course.asks h hp)

/-! ## States of a recording -/

/-- Does a recording run after all this? -/
def isRunning (vs : List Video) : Bool := vs.getLast? = some (.start true)

/-- What is done to a recording takes it from a state to another, and stops it only while it runs.
`again` says that it may be started while it runs. -/
inductive Tracks (again : Bool) : Bool → List Video → Bool → Prop where
  | nil (recording : Bool) : Tracks again recording [] recording
  | start {before runs after : Bool} {vs : List Video} :
      (before = true → again = true) → Tracks again runs vs after →
      Tracks again before (.start runs :: vs) after
  | stop {after : Bool} {vs : List Video} :
      Tracks again false vs after → Tracks again true (.stop :: vs) after

namespace Tracks

variable {again before middle after : Bool} {us vs : List Video}

theorem append (h : Tracks again before us middle) (h' : Tracks again middle vs after) :
    Tracks again before (us ++ vs) after := by
  induction h with
  | nil _ => exact h'
  | start hagain _ ih => exact .start hagain (ih h')
  | stop _ ih => exact .stop (ih h')

theorem split (h : Tracks again before (us ++ vs) after) :
    ∃ middle, Tracks again before us middle ∧ Tracks again middle vs after := by
  induction us generalizing before with
  | nil => exact ⟨before, .nil before, h⟩
  | cons u us ih =>
    cases h with
    | start hagain h =>
      obtain ⟨middle, hus, hvs⟩ := ih h
      exact ⟨middle, .start hagain hus, hvs⟩
    | stop h =>
      obtain ⟨middle, hus, hvs⟩ := ih h
      exact ⟨middle, .stop hus, hvs⟩

theorem mono (h : Tracks false before vs after) : Tracks again before vs after := by
  induction h with
  | nil _ => exact .nil _
  | start hagain _ ih => exact .start (fun hrunning => nomatch hagain hrunning) ih
  | stop _ ih => exact .stop ih

/-- The state is told by the last thing that was done. -/
theorem after_eq (h : Tracks again before vs after) :
    after = if vs = [] then before else isRunning vs := by
  induction h with
  | nil _ => rfl
  | @start before runs after vs _ _ ih =>
    cases vs with
    | nil => cases runs <;> simpa [isRunning] using ih
    | cons v vs => simpa [isRunning, List.getLast?_cons_cons] using ih
  | @stop after vs _ ih =>
    cases vs with
    | nil => simpa [isRunning] using ih
    | cons v vs => simpa [isRunning, List.getLast?_cons_cons] using ih

theorem after_eq_isRunning (h : Tracks again false vs after) : after = isRunning vs := by
  rw [h.after_eq]
  split
  · next hnil =>
    subst hnil
    rfl
  · rfl

end Tracks

end Run

/-! ## Operations of a recorder -/

namespace Capture.Recorder

open Browser Report Run

section Operations

variable {r : Recorder} {xs : List Exchange} {recording runs : Bool}

theorem ends_tryCall {c : Call} {a : Option c.Result} (h : Ends (r.tryCall c) xs a) :
    ∃ answer : Option (Except Browser.Fault c.Result),
      xs = [⟨.shielded r.session c r.limit, answer⟩] ∧ a = given? answer := by
  obtain ⟨answer, ys, h', rfl⟩ := ends_ask_bind.1 h
  refine ⟨answer, ?_⟩
  match answer, h' with
  | none, h' =>
    obtain ⟨rfl, rfl⟩ := ends_pure.1 h'
    exact ⟨rfl, rfl⟩
  | some (.ok a'), h' =>
    obtain ⟨rfl, rfl⟩ := ends_pure.1 h'
    exact ⟨rfl, rfl⟩
  | some (.error f), h' =>
    obtain ⟨rfl, rfl⟩ := ends_pure.1 h'
    exact ⟨rfl, rfl⟩

theorem videos_of_startRecording (h : Ends r.startRecording xs runs) :
    videosOf xs = [.start runs] := by
  obtain ⟨a, ys, zs, hcall, h', rfl⟩ := ends_bind.1 h
  obtain ⟨rfl, rfl⟩ := ends_pure.1 h'
  obtain ⟨answer, rfl, rfl⟩ := ends_tryCall hcall
  rfl

theorem videos_of_stopRecording {bytes? : Option ByteArray}
    (h : Ends r.stopRecording xs bytes?) : videosOf xs = [.stop] := by
  obtain ⟨a, ys, zs, hcall, h', rfl⟩ := ends_bind.1 h
  obtain ⟨answer, rfl, -⟩ := ends_tryCall hcall
  have hzs : zs = [] := by
    cases a with
    | none => exact (ends_pure.1 h').1
    | some bytes => exact (ends_pure.1 h').1
  subst hzs
  rfl

/-- Pictures leave recordings alone. -/
theorem allows_isQuiet (r : Recorder) : r.AllowsPictures Request.IsQuiet where
  now := Request.isQuiet_of_none rfl
  store _ _ _ := Request.isQuiet_of_none rfl
  picture := by
    rintro _ _ ⟨⟩ _
    rfl

theorem tracks_start (h : Ends r.start xs runs) : Tracks false false (videosOf xs) runs := by
  unfold start at h
  split at h
  · rw [videos_of_startRecording h]
    exact .start nofun (.nil runs)
  · obtain ⟨rfl, rfl⟩ := ends_pure.1 h
    exact .nil false

/-- A recording is cut by a stop and a start. -/
theorem tracks_cut {stepId : Nat} {a? : Option Artifact}
    (h : Ends (r.cut recording stepId) xs (a?, runs)) :
    Tracks false recording (videosOf xs) runs := by
  unfold cut at h
  split at h
  · next hcut =>
    obtain ⟨rfl, -⟩ := Bool.and_eq_true_iff.1 hcut
    obtain ⟨bytes?, ys, _, hstop, h₁, rfl⟩ := ends_bind.1 h
    have again {b? : Option Artifact} {zs : List Exchange}
        (h : Ends (r.startRecording >>= fun runs => pure (b?, runs)) zs (a?, runs)) :
        videosOf zs = [.start runs] := by
      obtain ⟨runs', us, vs, hstart, h', rfl⟩ := ends_bind.1 h
      obtain ⟨rfl, heq⟩ := ends_pure.1 h'
      obtain ⟨-, rfl⟩ := Prod.mk.inj heq
      rw [List.append_nil, videos_of_startRecording hstart]
    rw [videosOf_append, videos_of_stopRecording hstop, List.singleton_append]
    refine .stop ?_
    cases bytes? with
    | none =>
      rw [again h₁]
      exact .start nofun (.nil runs)
    | some bytes =>
      obtain ⟨b?, us, vs, hpersist, h₂, rfl⟩ := ends_bind.1 h₁
      have hquiet := r.allows_isQuiet.asks_persist (.segment r.scenario stepId) bytes
      rw [videosOf_append, hpersist.videosOf_eq_nil hquiet, again h₂]
      exact .start nofun (.nil runs)
  · obtain ⟨rfl, heq⟩ := ends_pure.1 h
    obtain ⟨-, rfl⟩ := Prod.mk.inj heq
    exact .nil runs

/-- Nothing is recorded afterwards. -/
theorem tracks_finish {artifacts : List Artifact} (h : Ends (r.finish recording) xs artifacts) :
    Tracks false recording (videosOf xs) false := by
  unfold finish at h
  split at h
  · next hrunning =>
    obtain rfl := hrunning
    obtain ⟨bytes?, ys, _, hstop, h₁, rfl⟩ := ends_bind.1 h
    rw [videosOf_append, videos_of_stopRecording hstop, List.singleton_append]
    refine .stop ?_
    cases bytes? with
    | none =>
      obtain ⟨rfl, -⟩ := ends_pure.1 h₁
      exact .nil false
    | some bytes =>
      obtain ⟨a?, us, vs, hpersist, h₂, rfl⟩ := ends_bind.1 h₁
      obtain ⟨rfl, -⟩ := ends_pure.1 h₂
      have hquiet := r.allows_isQuiet.asks_persist (.scenario r.scenario) bytes
      rw [List.append_nil, hpersist.videosOf_eq_nil hquiet]
      exact .nil false
  · next hidle =>
    obtain rfl := Bool.eq_false_iff.2 hidle
    obtain ⟨rfl, -⟩ := ends_pure.1 h
    exact .nil false

end Operations

/-! ## Sequences of operations -/

/-- What can be asked of a recorder. -/
inductive Operation where
  | start
  | passed (stepId : Nat) (flagged : Bool) (attempt : Nat)
  | failed (stepId : Nat) (flagged : Bool) (attempt : Nat) (terminal : Bool)
  | segment (stepId : Nat)
  | finish
deriving DecidableEq, Repr

/-- Carry out an operation. The answer says what was stored and whether a recording runs
afterwards. -/
def operate (r : Recorder) (recording : Bool) : Operation → Program (List Artifact × Bool)
  | .start =>
    (fun runs => ([], runs)) <$> if r.policy.videoRecording then r.start else pure recording
  | .passed stepId flagged attempt => do
    return ((← r.passed stepId flagged attempt).toList, recording)
  | .failed stepId flagged attempt terminal => do
    return ((← r.failed stepId flagged attempt terminal).toList, recording)
  | .segment stepId => do
    let (artifact?, recording) ← r.cut recording stepId
    return (artifact?.toList, recording)
  | .finish => do return (← r.finish recording, false)

/-- Carry out operations in order. -/
def operateAll (r : Recorder) : Bool → List Operation → Program (List Artifact × Bool)
  | recording, [] => pure ([], recording)
  | recording, op :: ops => do
    let (stored, recording) ← r.operate recording op
    let (later, recording) ← r.operateAll recording ops
    return (stored ++ later, recording)

section Sequences

variable {r : Recorder} {xs : List Exchange} {recording after : Bool} {artifacts : List Artifact}

theorem tracks_operate {op : Operation}
    (h : Ends (r.operate recording op) xs (artifacts, after)) :
    Tracks true recording (videosOf xs) after ∧ (op = .finish → after = false) := by
  cases op with
  | start =>
    refine ⟨?_, nofun⟩
    obtain ⟨runs, hstart, heq⟩ := ends_map.1 h
    obtain ⟨-, rfl⟩ := Prod.mk.inj heq
    split at hstart
    · next hvideo =>
      rw [start, if_pos hvideo] at hstart
      rw [videos_of_startRecording hstart]
      exact .start (fun _ => rfl) (.nil after)
    · obtain ⟨rfl, rfl⟩ := ends_pure.1 hstart
      exact .nil after
  | passed stepId flagged attempt =>
    refine ⟨?_, nofun⟩
    obtain ⟨a?, ys, zs, hpassed, h', rfl⟩ := ends_bind.1 h
    obtain ⟨rfl, heq⟩ := ends_pure.1 h'
    obtain ⟨-, rfl⟩ := Prod.mk.inj heq
    rw [List.append_nil, hpassed.videosOf_eq_nil (r.allows_isQuiet.asks_passed _ _ _)]
    exact .nil after
  | failed stepId flagged attempt terminal =>
    refine ⟨?_, nofun⟩
    obtain ⟨a?, ys, zs, hfailed, h', rfl⟩ := ends_bind.1 h
    obtain ⟨rfl, heq⟩ := ends_pure.1 h'
    obtain ⟨-, rfl⟩ := Prod.mk.inj heq
    rw [List.append_nil, hfailed.videosOf_eq_nil (r.allows_isQuiet.asks_failed _ _ _ _)]
    exact .nil after
  | segment stepId =>
    refine ⟨?_, nofun⟩
    obtain ⟨⟨a?, runs⟩, ys, zs, hcut, h', rfl⟩ := ends_bind.1 h
    obtain ⟨rfl, heq⟩ := ends_pure.1 h'
    obtain ⟨-, rfl⟩ := Prod.mk.inj heq
    rw [List.append_nil]
    exact (tracks_cut hcut).mono
  | finish =>
    obtain ⟨stored, ys, zs, hfinish, h', rfl⟩ := ends_bind.1 h
    obtain ⟨rfl, heq⟩ := ends_pure.1 h'
    obtain ⟨-, rfl⟩ := Prod.mk.inj heq
    rw [List.append_nil]
    exact ⟨(tracks_finish hfinish).mono, fun _ => rfl⟩

theorem tracks_operateAll {ops : List Operation}
    (h : Ends (r.operateAll recording ops) xs (artifacts, after)) :
    Tracks true recording (videosOf xs) after ∧ (ops.getLast? = some .finish → after = false) := by
  induction ops generalizing recording xs artifacts with
  | nil =>
    obtain ⟨rfl, heq⟩ := ends_pure.1 h
    obtain ⟨-, rfl⟩ := Prod.mk.inj heq
    exact ⟨.nil after, nofun⟩
  | cons op ops ih =>
    obtain ⟨⟨stored, between⟩, ys, _, hfirst, h₁, rfl⟩ := ends_bind.1 h
    obtain ⟨⟨later, after'⟩, zs, _, hrest, h₂, rfl⟩ := ends_bind.1 h₁
    obtain ⟨rfl, heq⟩ := ends_pure.1 h₂
    obtain ⟨-, rfl⟩ := Prod.mk.inj heq
    obtain ⟨hop, hfinish⟩ := tracks_operate hfirst
    obtain ⟨hops, hlast⟩ := ih hrest
    rw [List.append_nil, videosOf_append]
    refine ⟨hop.append hops, fun heq => ?_⟩
    cases ops with
    | nil =>
      obtain ⟨-, heq'⟩ := ends_pure.1 hrest
      obtain ⟨-, rfl⟩ := Prod.mk.inj heq'
      exact hfinish (Option.some.inj heq)
    | cons op' ops => exact hlast heq

end Sequences

end Capture.Recorder

/-! ## Scenarios -/

namespace Run

open Browser Report

namespace Performer

variable {p : Performer} {xs : List Exchange}

theorem allows_isQuiet (p : Performer) : p.AllowsAttempts Request.IsQuiet where
  execute step := (p.session.isOnPage_execute step).mono fun _ => Request.IsOnPage.isQuiet
  again _ _ := Request.isQuiet_of_none rfl
  pictures := p.recorder.allows_isQuiet

/-- A step cuts the recording at its end and leaves it alone before. -/
theorem tracks_runStep {recording after : Bool} {step : Scenario.Step} {r : StepResult}
    (h : Ends (p.runStep recording step) xs (r, after)) :
    Tracks false recording (videosOf xs) after := by
  obtain ⟨started, _, h₁, rfl⟩ := ends_ask_bind.1 h
  obtain ⟨cancelled, _, h₂, rfl⟩ := ends_ask_bind.1 h₁
  obtain ⟨tried, us, _, htried, h₃, rfl⟩ := ends_bind.1 h₂
  obtain ⟨⟨segment?, recording'⟩, vs, _, hcut, h₄, rfl⟩ := ends_bind.1 h₃
  obtain ⟨ended, _, h₅, rfl⟩ := ends_ask_bind.1 h₄
  obtain ⟨rfl, hr⟩ := ends_pure.1 h₅
  obtain ⟨-, rfl⟩ := Prod.mk.inj hr
  rw [videosOf_cons_of_none rfl, videosOf_cons_of_none rfl, videosOf_append, videosOf_append,
    videosOf_cons_of_none rfl, htried.videosOf_eq_nil (p.allows_isQuiet.asks_tryUnless _ _),
    List.nil_append]
  exact (Capture.Recorder.tracks_cut hcut).append (.nil after)

theorem Passing.tracks {before after : Bool} {steps : List Scenario.Step} {rs : List StepResult}
    (h : Passing p before steps xs rs after) : Tracks false before (videosOf xs) after := by
  induction h with
  | nil recording => exact .nil recording
  | cons hr _ _ ih =>
    rw [videosOf_append]
    exact (tracks_runStep hr).append ih

theorem tracks_runSteps {before after : Bool} {steps : List Scenario.Step} {rs : List StepResult}
    (h : Ends (p.runSteps before steps) xs (rs, after)) :
    Tracks false before (videosOf xs) after := by
  cases ends_runSteps h with
  | through hall => exact hall.tracks
  | upTo passing step rs r hpassing hr _ hskip =>
    have hnow := (ends_skipAll hskip).1
    have hquiet := videosOf_eq_nil fun x hx =>
      Request.isQuiet_of_none (congrArg Request.call? (hnow x hx))
    rw [videosOf_append, videosOf_append, hquiet, List.append_nil]
    exact hpassing.tracks.append (tracks_runStep hr)

/-- Nothing is recorded before the steps of a scenario, nor after them. -/
theorem tracks_runAll {steps : List Scenario.Step} {rs : List StepResult}
    {artifacts : List Artifact} (h : Ends (p.runAll steps) xs (rs, artifacts)) :
    Tracks false false (videosOf xs) false := by
  obtain ⟨us, vs, ws, before, after, rfl, hstart, hsteps, hfinish⟩ := ends_runAll h
  rw [videosOf_append, videosOf_append]
  exact (Capture.Recorder.tracks_start hstart).append
    ((tracks_runSteps hsteps).append (Capture.Recorder.tracks_finish hfinish))

end Performer

/-! ## The calls themselves -/

/-- Was the last call that started or stopped a recording a start that succeeded? -/
def isRecording (xs : List Exchange) : Bool := isRunning (videosOf xs)

/-- Recordings are stopped only while they run. -/
def StopsRunning (xs : List Exchange) : Prop :=
  ∀ us x ws, xs = us ++ x :: ws → x.video? = some .stop → isRecording us = true

/-- Recordings of a session. -/
structure IsPaired (xs : List Exchange) : Prop where
  /-- None is started while one runs. -/
  startsIdle : ∀ us x ws runs, xs = us ++ x :: ws → x.video? = some (.start runs) →
    isRecording us = false
  stopsRunning : StopsRunning xs
  /-- After a start that succeeded there is a stop before anything else is done to a recording, and
  no other stop follows it. -/
  stopped : ∀ us x ws, xs = us ++ x :: ws → x.video? = some (.start true) →
    ∃ vs, videosOf ws = .stop :: vs ∧ vs.head? ≠ some .stop
  /-- All of this comes before the session is closed, and none runs then. -/
  closed : ∀ us x ws session, xs = us ++ x :: ws → x.request.call? = some (session, .close) →
    isRecording us = false ∧ videosOf ws = []

section Paired

variable {again before after : Bool} {us ws xs : List Exchange} {x : Exchange}

theorem videosOf_split {v : Video} (hx : x.video? = some v) :
    videosOf (us ++ x :: ws) = videosOf us ++ v :: videosOf ws := by
  rw [videosOf_append, videosOf, videosOf, videosOf, List.filterMap_cons_some hx]

/-- What is known when something is done to a recording. -/
theorem Tracks.at_video (h : Tracks again false (videosOf xs) after) (hxs : xs = us ++ x :: ws)
    {v : Video} (hx : x.video? = some v) :
    Tracks again (isRecording us) (v :: videosOf ws) after := by
  rw [hxs, videosOf_split hx] at h
  obtain ⟨middle, hus, hws⟩ := h.split
  rwa [hus.after_eq_isRunning] at hws

theorem Tracks.stopsRunning (h : Tracks again false (videosOf xs) after) : StopsRunning xs := by
  intro us x ws hxs hx
  have hstop := h.at_video hxs hx
  generalize isRecording us = recording at hstop
  cases hstop
  rfl

theorem Tracks.startsIdle (h : Tracks false false (videosOf xs) after) {runs : Bool}
    (hxs : xs = us ++ x :: ws) (hx : x.video? = some (.start runs)) : isRecording us = false := by
  have hstart := h.at_video hxs hx
  generalize isRecording us = recording at hstart
  cases hstart with
  | start hagain _ => exact Bool.eq_false_iff.2 fun hrunning => nomatch hagain hrunning

theorem Tracks.stopped (h : Tracks false false (videosOf xs) false) (hxs : xs = us ++ x :: ws)
    (hx : x.video? = some (.start true)) :
    ∃ vs, videosOf ws = .stop :: vs ∧ vs.head? ≠ some .stop := by
  have hstart := h.at_video hxs hx
  generalize isRecording us = recording at hstart
  generalize videosOf ws = vs at hstart
  cases hstart with
  | start _ hvs =>
    cases hvs with
    | start hagain _ => exact nomatch hagain rfl
    | stop hrest =>
      refine ⟨_, rfl, fun hhead => ?_⟩
      cases hrest with
      | nil => cases hhead
      | start => cases hhead

theorem isPaired_of_tracks (h : Tracks false false (videosOf xs) false)
    (hclosed : ∀ us x ws session, xs = us ++ x :: ws → x.request.call? = some (session, .close) →
      isRecording us = false ∧ videosOf ws = []) : IsPaired xs where
  startsIdle _ _ _ _ := h.startsIdle
  stopsRunning := h.stopsRunning
  stopped _ _ _ := h.stopped
  closed := hclosed

/-- Without a session there is nothing to record. -/
theorem isPaired_of_none (h : ∀ x ∈ xs, x.request.call? = none) : IsPaired xs := by
  have hnone : videosOf xs = [] := videosOf_eq_nil fun x hx => Request.isQuiet_of_none (h x hx)
  refine isPaired_of_tracks (hnone ▸ .nil false) fun us x ws session hxs hx => ?_
  rw [h x (hxs ▸ List.mem_append_right us List.mem_cons_self)] at hx
  cases hx

/-- In a session, it is closed once, after all that is done to recordings. -/
theorem isPaired_of_scenario {plan : Config.Plan} {tree : Files.Tree} {entry : Config.Entry}
    {result : ScenarioResult} (h : Ends (scenario plan tree entry) xs result) : IsPaired xs := by
  cases ends_scenario h with
  | unloaded f started ended _ => exact isPaired_of_none (by simp [Request.call?])
  | unopened d f started ended _ _ => exact isPaired_of_none (by simp [Request.call?])
  | opened d session started ended ys closed _ hall =>
    have htracks := Performer.tracks_runAll hall
    have hvideos : videosOf (⟨.now, started⟩ :: ⟨.openSession, some (.ok session)⟩ :: ys) =
        videosOf ys := by
      rw [videosOf_cons_of_none rfl, videosOf_cons_of_none rfl]
    have hopen : ∀ x : Exchange, x ∈ ⟨.now, started⟩ :: ⟨.openSession, some (.ok session)⟩ :: ys →
        ¬∃ s, x.request.call? = some (s, .close) := by
      have hys := Performer.isInSession_of_runAll (isUnited_performer plan d.name session) hall
      refine List.forall_mem_cons.2 ⟨by simp [Request.call?], List.forall_mem_cons.2
        ⟨by simp [Request.call?], fun x hx => ?_⟩⟩
      rintro ⟨s, hclose⟩
      exact ((hys x hx).call hclose).2 rfl
    refine isPaired_of_tracks ?_ fun us x ws s hxs hx => ?_
    · rw [← List.cons_append, ← List.cons_append, videosOf_append, hvideos,
        videosOf_cons_of_none rfl, videosOf_cons_of_none rfl]
      exact htracks.append (.nil false)
    · rw [← List.cons_append, ← List.cons_append] at hxs
      obtain ⟨rfl, rfl⟩ := split_unique (p := fun x => ∃ s, x.request.call? = some (s, .close))
        hxs.symm ⟨s, hx⟩ hopen (by simp [Request.call?])
      rw [isRecording, hvideos, ← htracks.after_eq_isRunning]
      exact ⟨rfl, rfl⟩

end Paired

/-- Whatever is asked of a recorder, it knows whether its last start succeeded, it stops only what
runs, and nothing runs when it has finished. A scenario starts no recording while one runs and stops
every one that it started, once, before it closes its session. -/
theorem recordings_paired :
    (∀ (r : Capture.Recorder) (ops : List Capture.Recorder.Operation) (xs : List Exchange)
        (artifacts : List Artifact) (recording : Bool),
      Ends (r.operateAll false ops) xs (artifacts, recording) →
        recording = isRecording xs ∧ StopsRunning xs ∧
          (ops.getLast? = some .finish → recording = false)) ∧
      ∀ (plan : Config.Plan) (tree : Files.Tree) (entry : Config.Entry) (xs : List Exchange)
        (result : ScenarioResult), Ends (scenario plan tree entry) xs result → IsPaired xs := by
  refine ⟨fun r ops xs artifacts recording h => ?_, fun plan tree entry xs result h =>
    isPaired_of_scenario h⟩
  obtain ⟨htracks, hfinish⟩ := Capture.Recorder.tracks_operateAll h
  exact ⟨htracks.after_eq_isRunning, htracks.stopsRunning, hfinish⟩

/-! A scenario of one step with a video of its own. The browser does not stop the recording in time
at the end of the step, and what it records afterwards is not stored. -/

namespace Recorded

def entry : Config.Entry := ⟨"A", "a", "", "y", 1⟩

def plan : Config.Plan :=
  ⟨⟨{ Config.Framework.default with videoRecording := true }, default,
    { Config.Video.default with stepVideos := true }, [entry]⟩, default⟩

def tree : Files.Tree := ⟨[(["a"], .file "[[\"A\"],[[1,\"s\",\"back\"]]]".toUTF8)]⟩

def step : Scenario.Step := ⟨1, "s", "", "", "", .back, default, false⟩

def definition : Scenario.Definition := ⟨"A", "", "", none, [], [step]⟩

theorem load_entry : Scenario.load plan.environment tree entry = .ok definition := by
  decide +kernel

def recorder : Capture.Recorder := (performer plan "A" 0).recorder

def moment : Moment := ⟨default, 0⟩

def started : Exchange :=
  ⟨.shielded 0 (.startVideo plan.master.video) recorder.limit, some (.ok ())⟩

def late : Exchange := ⟨.shielded 0 .stopVideo recorder.limit, none⟩

def stopped : Exchange := ⟨.shielded 0 .stopVideo recorder.limit, some (.ok "v".toUTF8)⟩

def lost : Exchange := ⟨.store ⟨.video, .scenario, "A", none, none, default⟩ "v".toUTF8, none⟩

def operations : List Capture.Recorder.Operation := [.start, .segment 1, .finish]

theorem ends_operations : Ends (recorder.operateAll false operations)
    [started, late, started, stopped, ⟨.now, moment⟩, lost] ([], false) :=
  .step (.step (.step (.step (.step (.step (.refl _))))))

def exchanges : List Exchange :=
  [⟨.now, moment⟩, ⟨.openSession, some (.ok 0)⟩, started,
    ⟨.now, moment⟩, ⟨.token (.step 1), false⟩,
    ⟨.call 0 .back (performer plan "A" 0).session.limits.pageLoad, (.answered (.ok ()), 5)⟩,
    late, started, ⟨.now, moment⟩, stopped, ⟨.now, moment⟩, lost,
    ⟨.shielded 0 .close closeLimit, some (.ok ())⟩, ⟨.now, moment⟩]

def result : ScenarioResult :=
  resultOf entry moment moment [⟨1, "s", .back, .passed, 1, 0, [], none, default⟩] []

theorem ends_exchanges : Ends (scenario plan tree entry) exchanges result := by
  refine ends_ask_bind.2 ⟨moment, _, ?_, rfl⟩
  simp only [load_entry]
  exact .step (.step (.step (.step (.step (.step (.step (.step (.step (.step (.step (.step (.step
    (.refl _)))))))))))))

theorem recordings_paired_of_late_stop :
    Ends (recorder.operateAll false operations)
        [started, late, started, stopped, ⟨.now, moment⟩, lost] ([], false) ∧
      StopsRunning [started, late, started, stopped, ⟨.now, moment⟩, lost] ∧
      Ends (scenario plan tree entry) exchanges result ∧ IsPaired exchanges :=
  ⟨ends_operations, (recordings_paired.1 _ _ _ _ _ ends_operations).2.1, ends_exchanges,
    recordings_paired.2 _ _ _ _ _ ends_exchanges⟩

end Recorded

end Run

end Walkthrough
