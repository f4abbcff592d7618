import Walkthrough.Proofs.Scenario

/-!
# Walkthrough.Proofs.StepResults

The results of the steps of a scenario, whatever the browser, the store and the clock answer and
whenever the run is cancelled.

* `runSteps_append`: steps that all pass and the steps after them go through one course.
* `isOrderly_of_runSteps`: the results belong to the steps in order, each is sound, and nothing
  passes after the first that does not.
* `exists_course_of_failed`: when a step has failed, the session is asked for nothing any more but
  captures and its end.
* `stepResults_of_scenario`: all of this for a loaded scenario, and that without a session there are
  no results.
-/

namespace Walkthrough
namespace Run

open Browser Report

/-- A word of statuses in which nothing passes after a step that does not: all steps passed, or the
ones before a failed step did and the ones after it are skipped. -/
def IsOrderly (statuses : List StepStatus) : Prop :=
  ∃ n, statuses = List.replicate n .passed ∨
    ∃ m, statuses = List.replicate n .passed ++ .failed :: List.replicate m .skipped

/-- A request that may still be made when nothing more is done on the page. -/
def Request.IsLate (r : Request) : Prop := ∀ s c, r.call? = some (s, c) → c.mayComeLate = true

theorem Request.IsCapture.isLate {session : Nat} {r : Request} (h : r.IsCapture session) :
    r.IsLate := by
  intro s c hc
  simp only [Call.mayComeLate, h.call_isCapture hc, Bool.true_or]

/-- The result of a step says which step it is of and what its status needs. -/
def IsResultOf (step : Scenario.Step) (r : StepResult) : Prop := r.IsOf step ∧ r.IsSound

theorem map_eq_replicate {rs : List StepResult} {status : StepStatus}
    (h : ∀ r ∈ rs, r.status = status) :
    rs.map (·.status) = List.replicate rs.length status := by
  rw [List.eq_replicate_iff, List.length_map]
  exact ⟨rfl, List.forall_mem_map.2 h⟩

theorem statusOf_eq_passed_iff {rs : List StepResult} (h : rs ≠ []) :
    ScenarioResult.statusOf rs = .passed ↔ ∀ r ∈ rs, r.status = .passed := by
  have hne : rs.isEmpty = false := by simpa using h
  simp [ScenarioResult.statusOf, hne]

namespace Performer

variable {p : Performer} {xs : List Exchange}

/-! ## Steps that pass -/

theorem Passing.isResultOf (hp : p.IsUnited) {before after : Bool} {steps : List Scenario.Step}
    {rs : List StepResult} (h : Passing p before steps xs rs after) :
    List.Forall₂ IsResultOf steps rs := by
  induction h with
  | nil _ => exact .nil
  | cons hr _ _ ih =>
    obtain ⟨_, _, _, -, -, hof, hsound, -⟩ := ends_runStep hp hr
    exact .cons ⟨hof, hsound⟩ ih

theorem Passing.passed {before after : Bool} {steps : List Scenario.Step} {rs : List StepResult}
    (h : Passing p before steps xs rs after) : ∀ r ∈ rs, r.status = .passed := by
  induction h with
  | nil _ => exact List.forall_mem_nil _
  | cons _ hpassed _ ih => exact List.forall_mem_cons.2 ⟨hpassed, ih⟩

theorem Passing.length_eq {before after : Bool} {steps : List Scenario.Step} {rs : List StepResult}
    (h : Passing p before steps xs rs after) : rs.length = steps.length := by
  induction h with
  | nil _ => rfl
  | cons _ _ _ ih => exact congrArg Nat.succ ih

/-- Steps that all pass go through one course with the steps after them. -/
theorem Passing.runSteps_append {before between after : Bool} {passing steps : List Scenario.Step}
    {ys : List Exchange} {rs ss : List StepResult} (h : Passing p before passing xs rs between)
    (g : Ends (p.runSteps between steps) ys (ss, after)) :
    Ends (p.runSteps before (passing ++ steps)) (xs ++ ys) (rs ++ ss, after) := by
  induction h with
  | nil _ => exact g
  | cons hr hpassed _ ih =>
    refine ends_bind.2 ⟨_, _, _, hr, ?_, List.append_assoc _ _ _⟩
    simp only [hpassed, if_true]
    exact ends_bind.2 ⟨_, _, [], ih g, ends_pure.2 ⟨rfl, rfl⟩, (List.append_nil _).symm⟩

/-- A step that does not pass is the last of its course. -/
theorem runSteps_singleton {before after : Bool} {step : Scenario.Step} {r : StepResult}
    (h : Ends (p.runStep before step) xs (r, after)) (hnot : r.status ≠ .passed) :
    Ends (p.runSteps before [step]) xs ([r], after) := by
  refine ends_bind.2 ⟨_, xs, [], h, ?_, (List.append_nil _).symm⟩
  simp only [hnot, if_false]
  exact ends_pure.2 ⟨rfl, rfl⟩

/-! ## All steps -/

theorem isResultOf_of_skipAll {steps : List Scenario.Step} {rs : List StepResult}
    (h : Ends (skipAll steps) xs rs) : List.Forall₂ IsResultOf steps rs :=
  (ends_skipAll h).2.imp fun _ _ hr => ⟨hr.1, hr.2.1⟩

/-- The results belong to the steps in order, and nothing passes after the first that does not. -/
theorem isOrderly_of_runSteps (hp : p.IsUnited) {steps : List Scenario.Step} {before after : Bool}
    {rs : List StepResult} (h : Ends (p.runSteps before steps) xs (rs, after)) :
    List.Forall₂ IsResultOf steps rs ∧ IsOrderly (rs.map (·.status)) := by
  cases ends_runSteps h with
  | through hall => exact ⟨hall.isResultOf hp, rs.length, .inl (map_eq_replicate hall.passed)⟩
  | @upTo passing step rest between ys zs ws rs₁ r rs₂ hpassing hr hnot hskip =>
    obtain ⟨_, _, _, -, -, hof, hsound, hran, -⟩ := ends_runStep hp hr
    have hfailed : r.status = .failed := by
      cases hs : r.status with
      | passed => exact absurd hs hnot
      | failed => rfl
      | skipped => exact absurd hs hran
    have hrest := isResultOf_of_skipAll hskip
    refine ⟨List.rel_append (hpassing.isResultOf hp) (.cons ⟨hof, hsound⟩ hrest), rs₁.length,
      .inr ⟨rs₂.length, ?_⟩⟩
    rw [List.map_append, List.map_cons, map_eq_replicate hpassing.passed, hfailed,
      map_eq_replicate (skipped_of_skipAll hskip)]

/-- Up to a failed step the steps go through their courses; afterwards nothing but the clock is
asked. -/
theorem exists_course_of_failed {steps : List Scenario.Step} {before after : Bool}
    {rs : List StepResult} (h : Ends (p.runSteps before steps) xs (rs, after)) {k : Nat}
    {r : StepResult} (hget : rs[k]? = some r) (hfailed : r.status = .failed) :
    ∃ ys zs, xs = ys ++ zs ∧
      Ends (p.runSteps before (steps.take (k + 1))) ys (rs.take (k + 1), after) ∧
      ∀ z ∈ zs, z.request = .now := by
  cases ends_runSteps h with
  | through hall =>
    rw [hall.passed r (List.mem_of_getElem? hget)] at hfailed
    cases hfailed
  | @upTo passing step rest between ys zs ws rs₁ r' rs₂ hpassing hr hnot hskip =>
    obtain ⟨hnow, -⟩ := ends_skipAll hskip
    -- No step before the one that did not pass has failed, and none after it.
    have hk : k = rs₁.length := by
      rcases Nat.lt_trichotomy k rs₁.length with hlt | heq | hgt
      · rw [List.getElem?_append_left hlt] at hget
        rw [hpassing.passed r (List.mem_of_getElem? hget)] at hfailed
        cases hfailed
      · exact heq
      · rw [skipped_of_skipAll hskip r (mem_of_getElem?_after hget hgt)] at hfailed
        cases hfailed
    subst hk
    refine ⟨ys ++ zs, ws, (List.append_assoc _ _ _).symm, ?_, hnow⟩
    have hsteps : (passing ++ step :: rest).take (rs₁.length + 1) = passing ++ [step] := by
      rw [hpassing.length_eq, List.take_length_add_append, List.take_succ_cons, List.take_zero]
    have hrs : (rs₁ ++ r' :: rs₂).take (rs₁.length + 1) = rs₁ ++ [r'] := by
      rw [List.take_length_add_append, List.take_succ_cons, List.take_zero]
    rw [hsteps, hrs]
    exact hpassing.runSteps_append (runSteps_singleton hr hnot)

end Performer

/-! ## The result of a scenario -/

/-- What is asked by a scenario that has a session, and what its result says of its steps. -/
structure Reports (plan : Config.Plan) (d : Scenario.Definition) (session : Nat)
    (xs : List Exchange) (r : ScenarioResult) : Prop where
  /-- All calls are made in the session. -/
  own : ∀ x ∈ xs, ∀ s c, x.request.call? = some (s, c) → s = session
  each : List.Forall₂ IsResultOf d.steps r.steps
  order : IsOrderly (r.steps.map (·.status))
  verdict : r.status = .passed ↔ ∀ s ∈ r.steps, s.status = .passed
  /-- Once the steps up to one that failed have gone through their courses, nothing more is done on
  the page. -/
  halt : ∀ k s, r.steps[k]? = some s → s.status = .failed →
    ∃ started us recording vs after ws,
      xs = ⟨.now, started⟩ :: ⟨.openSession, some (.ok session)⟩ :: (us ++ (vs ++ ws)) ∧
      Ends (performer plan d.name session).recorder.start us recording ∧
      Ends ((performer plan d.name session).runSteps recording (d.steps.take (k + 1))) vs
        (r.steps.take (k + 1), after) ∧
      ∀ w ∈ ws, w.request.IsLate

section Scenario

variable {plan : Config.Plan} {tree : Files.Tree} {entry : Config.Entry} {xs : List Exchange}
  {r : ScenarioResult}

theorem reports_of_runAll {d : Scenario.Definition} {session : Nat} (hsteps : d.steps ≠ [])
    {steps : List StepResult} {artifacts : List Artifact}
    (h : Ends ((performer plan d.name session).runAll d.steps) xs (steps, artifacts))
    (started ended : Moment) (closed : Option (Except Browser.Fault Unit)) :
    Reports plan d session
      (⟨.now, started⟩ :: ⟨.openSession, some (.ok session)⟩ ::
        (xs ++ [⟨.shielded session .close closeLimit, closed⟩, ⟨.now, ended⟩]))
      (resultOf entry started ended steps artifacts) := by
  have hp := isUnited_performer plan d.name session
  have hown := Performer.isInSession_of_runAll hp h
  obtain ⟨us, vs, ws, before, after, rfl, hstart, hrun, hfinish⟩ := Performer.ends_runAll h
  obtain ⟨heach, horder⟩ := Performer.isOrderly_of_runSteps hp hrun
  refine ⟨?_, heach, horder, statusOf_eq_passed_iff ?_, ?_⟩
  · intro x hx s c hc
    simp only [List.mem_cons, List.mem_append, List.not_mem_nil, or_false] at hx hown
    rcases hx with rfl | rfl | hx | rfl | rfl
    · cases hc
    · cases hc
    · exact ((hown x hx).call hc).1
    · exact (Prod.mk.inj (Option.some.inj hc)).1.symm
    · cases hc
  · rintro rfl
    exact hsteps (List.forall₂_nil_right_iff.1 heach)
  · intro k s hget hfailed
    obtain ⟨vs₁, vs₂, rfl, hfirst, hnow⟩ := Performer.exists_course_of_failed hrun hget hfailed
    refine ⟨started, us, before, vs₁, after,
      vs₂ ++ (ws ++ [⟨.shielded session .close closeLimit, closed⟩, ⟨.now, ended⟩]), ?_, hstart,
      hfirst, ?_⟩
    · simp only [List.append_assoc]
    · intro w hw
      simp only [List.mem_append, List.mem_cons, List.not_mem_nil, or_false] at hw
      rcases hw with hw | hw | rfl | rfl
      · rw [hnow w hw]
        exact nofun
      · have hasks := (performer plan d.name session).recorder.allows_isCapture.asks_finish after
        exact (hfinish.asks hasks w hw).isLate
      · rintro s c ⟨⟩
        rfl
      · exact nofun

/-- A loaded scenario has a result in every world and every state. Whatever its requests are
answered, the results of its steps are as they should be; without a session there are none, and the
scenario has failed. -/
theorem stepResults_of_scenario {d : Scenario.Definition}
    (loaded : Scenario.load plan.environment tree entry = .ok d) :
    (∀ (σ : Type) (w : World σ) (st : State σ), ∃ xs,
      Ends (scenario plan tree entry) xs ((scenario plan tree entry).run w st).1) ∧
    ∀ xs r, Ends (scenario plan tree entry) xs r →
      (∃ session, ⟨.openSession, some (.ok session)⟩ ∈ xs ∧ Reports plan d session xs r) ∨
        (∀ session, ⟨.openSession, some (.ok session)⟩ ∉ xs) ∧ r.steps = [] ∧
          r.status = .failed ∧ r.error ≠ none ∧ ∀ x ∈ xs, x.request.call? = none := by
  refine ⟨fun _ w st => ends_run w _ st, fun xs r course => ?_⟩
  cases ends_scenario course with
  | unloaded f started ended hload =>
    rw [loaded] at hload
    cases hload
  | unopened d' f started ended hload hanswer =>
    refine .inr ⟨fun session hsession => ?_, rfl, rfl, nofun, ?_⟩
    · simp only [List.mem_cons, List.not_mem_nil, or_false] at hsession
      rcases hsession with h | h | h
      · cases h
      · cases h
        cases hanswer
      · cases h
    · simp [Request.call?]
  | opened d' session started ended ys closed hload hall =>
    obtain rfl := Except.ok.inj (loaded.symm.trans hload)
    have hsteps := Scenario.steps_ne_nil_of_load loaded
    exact .inl ⟨session, by simp, reports_of_runAll hsteps hall started ended closed⟩

end Scenario

/-! A scenario of two steps; the browser refuses the first. -/

namespace Sample

def entry : Config.Entry := ⟨"A", "a", "", "y", 1⟩

def plan : Config.Plan := ⟨⟨default, default, default, [entry]⟩, default⟩

def tree : Files.Tree :=
  ⟨[(["a"], .file "[[\"A\"],[[1,\"s\",\"back\"],[2,\"t\",\"back\"]]]".toUTF8)]⟩

def step (id : Nat) (name : String) : Scenario.Step := ⟨id, name, "", "", "", .back, default, false⟩

def definition : Scenario.Definition := ⟨"A", "", "", none, [], [step 1 "s", step 2 "t"]⟩

theorem load_entry : Scenario.load plan.environment tree entry = .ok definition := by
  decide +kernel

def exchanges : List Exchange :=
  let moment : Moment := ⟨default, 0⟩
  let now : Exchange := ⟨.now, moment⟩
  [now, ⟨.openSession, some (.ok 0)⟩,
    now, ⟨.token (.step 1), false⟩,
    ⟨.call 0 .back (performer plan "A" 0).session.limits.pageLoad,
      (.answered (.error (.broken "gone" false)), 5)⟩,
    ⟨.shielded 0 .screenshot (performer plan "A" 0).recorder.limit, none⟩,
    now, now, ⟨.shielded 0 .close closeLimit, some (.ok ())⟩, now]

def result : ScenarioResult :=
  resultOf entry ⟨default, 0⟩ ⟨default, 0⟩
    [⟨1, "s", .back, .failed, 1, 0, [], some ⟨.driverFatal, "driver failure: gone"⟩, default⟩,
      ⟨2, "t", .back, .skipped, 0, 0, [], none, default⟩] []

theorem ends_exchanges : Ends (scenario plan tree entry) exchanges result := by
  refine ends_ask_bind.2 ⟨⟨default, 0⟩, _, ?_, rfl⟩
  simp only [load_entry]
  exact .step (.step (.step (.step (.step (.step (.step (.step (.step (.refl _)))))))))

theorem stepResults_of_exchanges :
    Scenario.load plan.environment tree entry = .ok definition ∧
      Ends (scenario plan tree entry) exchanges result ∧
      ((∃ session, ⟨.openSession, some (.ok session)⟩ ∈ exchanges ∧
          Reports plan definition session exchanges result) ∨
        (∀ session, ⟨.openSession, some (.ok session)⟩ ∉ exchanges) ∧ result.steps = [] ∧
          result.status = .failed ∧ result.error ≠ none ∧
          ∀ x ∈ exchanges, x.request.call? = none) :=
  ⟨load_entry, ends_exchanges, (stepResults_of_scenario load_entry).2 _ _ ends_exchanges⟩

end Sample

end Run
end Walkthrough
