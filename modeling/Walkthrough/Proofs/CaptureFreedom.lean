import Walkthrough.Proofs.Hosting
import Walkthrough.Proofs.Sameness
import Walkthrough.Proofs.StepResults

/-!
# Walkthrough.Proofs.CaptureFreedom

Captures never change what comes of a scenario.

* `pageCalls`: the calls that the record of a run tells of, without the captures.
* `filter_calls_of_recounts`: these are the calls of the course.
* `sameOutcome_of_scenario`: two runs of a scenario that differ in what is captured, in how captures
  end and how long they take make the same other calls and come to the same results.
-/

namespace Walkthrough

namespace Report

/-- Results of a step that differ in nothing but moments, durations and artifacts. -/
structure StepResult.SameOutcome (r r' : StepResult) : Prop where
  stepId : r.stepId = r'.stepId
  status : r.status = r'.status
  attempts : r.attempts = r'.attempts
  error : r.error = r'.error

theorem StepResult.sameOutcome_of_masked {blind : Bool} {r r' : StepResult}
    (h : r.masked blind = r'.masked blind) : r.SameOutcome r' := by
  obtain ⟨hid, -, -, hstatus, hattempts, -, -, herror, -⟩ := StepResult.mk.inj h
  exact ⟨hid, hstatus, hattempts, herror⟩

end Report

namespace Run

open Browser Report

/-! ## Calls in the record -/

/-- The call that an event is the start of. -/
def Event.call? : Event → Option Call
  | .called _ c => some c
  | _ => none

/-- What was called for the scenario at a place, in order, apart from captures. -/
def pageCalls (place : Nat) (notes : List Note) : List Call :=
  ((eventsAt place notes).filterMap Event.call?).filter fun c => !c.isCapture

section Calls

variable {blind : Bool} {D : Driver} {calls : List Call} {x : Exchange} {xs : List Exchange}
  {es : List Event}

theorem Exchange.Obeys.eq_ending {s : Nat} {c : Call} {limit : Duration}
    {a : Answer (.call s c limit)} (h : Exchange.Obeys D calls ⟨.call s c limit, a⟩) :
    a = D.ending calls c limit := by
  cases h
  rfl

/-- A driver does not cancel its calls. -/
theorem Driver.ending_ne_cancelled (D : Driver) (calls : List Call) (c : Call) (limit : Duration) :
    (D.ending calls c limit).1 ≠ .cancelled := by
  unfold ending
  split
  · exact nofun
  · exact nofun

/-- An exchange that the driver answers leaves its call in the record, if it is seen. -/
theorem filter_calls_of_leaves (h : x.Leaves es)
    (hx : x.request.Escapes blind ∨ x.Obeys D calls) :
    (es.filterMap Event.call?).filter (Call.isSeen blind) = (x.seen? blind).toList := by
  cases h with
  | uncalled s c limit spent =>
    rcases hx with hx | hx
    · rw [hx.seen?_eq]
      rfl
    · exact absurd (congrArg Prod.fst hx.eq_ending).symm (D.ending_ne_cancelled calls c limit)
  | called s c limit a =>
    change [c].filter (Call.isSeen blind) = ((some c).filter (Call.isSeen blind)).toList
    cases hc : c.isSeen blind <;> simp [Option.filter, hc]
  | shielded s c limit a =>
    change [c].filter (Call.isSeen blind) = ((some c).filter (Call.isSeen blind)).toList
    cases hc : c.isSeen blind <;> simp [Option.filter, hc]
  | _ => rfl

theorem filter_calls_of_recounts (h : Recounts xs es) (hxs : Obeys blind D calls xs) :
    (es.filterMap Event.call?).filter (Call.isSeen blind) = seen blind xs := by
  induction h generalizing calls with
  | nil => rfl
  | cons hx _ ih =>
    rw [List.filterMap_append, List.filter_append, seen_cons, filter_calls_of_leaves hx hxs.1,
      ih hxs.2]

end Calls

/-! ## Two runs -/

/-- The course of a run that is not cancelled: the driver answers it, and the record tells what it
calls on the page. -/
theorem obeys_of_scenario {σ : Type} {w : World σ} {D : Driver} {view : σ → Nat → List Call}
    (hw : w.Hosts true D view) (plan : Config.Plan) (tree : Files.Tree) (entry : Config.Entry)
    (st : State σ) :
    let run := (scenario plan tree entry).run w { st with notes := [] }
    run.2.cancelled = false → ∃ xs, Ends (scenario plan tree entry) xs run.1 ∧
      Obeys true D [] xs ∧ pageCalls st.place run.2.notes = seen true xs := by
  intro run hc
  have hasks : (scenario plan tree entry).Asks Request.Heeds :=
    (isProper_scenario plan tree entry).mono fun _ hr => hr.2
  obtain ⟨xs, es, hends, hfaithful, hrecounts, hadvances⟩ :=
    faithful_run hw (hasOneSession_scenario plan tree entry) (.refl _) hasks (kept_initial rfl)
      (faithful_nil true D view _) hc
  refine ⟨xs, hends, hfaithful.obeys, ?_⟩
  have hevents : eventsAt st.place run.2.notes = es := hadvances.here
  rw [pageCalls, hevents]
  exact filter_calls_of_recounts hrecounts hfaithful.obeys

/-- Take two runs of one scenario in worlds where a driver answers all calls but captures, each from
the other calls before it. They may differ in what is captured, in how captures and the store react
and how long that takes. If neither is cancelled, they make the same calls apart from captures, and
every step and the scenario come to the same. -/
theorem sameOutcome_of_scenario {σ σ' : Type} {w : World σ} {w' : World σ'} {D : Driver}
    {view : σ → Nat → List Call} {view' : σ' → Nat → List Call} (hw : w.Hosts true D view)
    (hw' : w'.Hosts true D view') {plan plan' : Config.Plan} (hplan : plan.IsTwin true plan')
    {tree tree' : Files.Tree} {entry : Config.Entry}
    (hload : LoadsTwin true (Scenario.load plan.environment tree entry)
      (Scenario.load plan'.environment tree' entry)) (st : State σ) (st' : State σ') :
    let run := (scenario plan tree entry).run w { st with notes := [] }
    let run' := (scenario plan' tree' entry).run w' { st' with notes := [] }
    run.2.cancelled = false → run'.2.cancelled = false →
      pageCalls st.place run.2.notes = pageCalls st'.place run'.2.notes ∧
        List.Forall₂ StepResult.SameOutcome run.1.steps run'.1.steps ∧
        run.1.status = run'.1.status := by
  intro run run' hc hc'
  obtain ⟨xs, hends, hobeys, hcalls⟩ := obeys_of_scenario hw plan tree entry st hc
  obtain ⟨ys, hends', hobeys', hcalls'⟩ := obeys_of_scenario hw' plan' tree' entry st' hc'
  obtain ⟨hmasked, hseen⟩ := (alike_scenario hplan entry hload).agree hends hends' hobeys hobeys'
  obtain ⟨-, -, hstatus, hsteps, -⟩ := ScenarioResult.mk.inj hmasked
  have heach : List.Forall₂ (fun r r' => r.masked true = r'.masked true) run.1.steps
      run'.1.steps := by
    rw [← List.forall₂_map_right_iff, ← List.forall₂_map_left_iff, hsteps]
    exact List.forall₂_refl _
  refine ⟨?_, heach.imp fun _ _ => StepResult.sameOutcome_of_masked, hstatus⟩
  rw [hcalls, hcalls', hseen]

/-! The scenario with and without pictures; the browser is busy when it is first asked to go
back. -/

namespace Sample

def busy : Driver where
  opens := .ok ()
  answer calls c :=
    match c with
    | .back => if calls.isEmpty then (.error (.broken "busy" true), 5) else (.ok (), 3)
    | _ => (.error (.broken "gone" false), 1)
  keeps _ := false

/-- No capture succeeds. -/
def plain : World (Nat → List Call) :=
  busy.host true (fun _ => ⟨.error (.broken "no picture" false), 7, false⟩) fun _ => false

/-- Pictures are taken and kept; they take their time. -/
def pictured : World (Nat → List Call) :=
  busy.host true
    (fun c =>
      match c with
      | .screenshot => ⟨.ok ⟨#[1]⟩, 900, false⟩
      | _ => ⟨.error (.timedOut "video"), 20000, false⟩)
    fun _ => true

def picturedPlan : Config.Plan :=
  { plan with
    master := { plan.master with
      framework := { plan.master.framework with screenshotOnStep := true, videoRecording := true } } }

def picturedTree : Files.Tree :=
  ⟨[(["a"], .file "[[\"A\"],[[1,\"s\",\"back\"],[2,\"t\",\"back\",\"\",\"\",0,true]]]".toUTF8)]⟩

def picturedDefinition : Scenario.Definition :=
  { definition with steps := [step 1 "s", { step 2 "t" with screenshot := true }] }

theorem load_pictured :
    Scenario.load picturedPlan.environment picturedTree entry = .ok picturedDefinition := by
  decide +kernel

def plainRun : ScenarioResult × State (Nat → List Call) :=
  (scenario plan tree entry).run plain { State.initial (fun _ => []) none with notes := [] }

def picturedRun : ScenarioResult × State (Nat → List Call) :=
  (scenario picturedPlan picturedTree entry).run pictured
    { State.initial (fun _ => []) none with notes := [] }

theorem sameOutcome_of_pictured :
    plain.Hosts true busy id ∧ pictured.Hosts true busy id ∧ plan.IsTwin true picturedPlan ∧
      LoadsTwin true (Scenario.load plan.environment tree entry)
        (Scenario.load picturedPlan.environment picturedTree entry) ∧
      plainRun.2.cancelled = false ∧ picturedRun.2.cancelled = false ∧
      pageCalls 0 plainRun.2.notes = pageCalls 0 picturedRun.2.notes ∧
      List.Forall₂ StepResult.SameOutcome plainRun.1.steps picturedRun.1.steps ∧
      plainRun.1.status = picturedRun.1.status := by
  have hplain : plain.Hosts true busy id := busy.hosts_host true _ nofun
  have hpictured : pictured.Hosts true busy id := busy.hosts_host true _ nofun
  have hplan : plan.IsTwin true picturedPlan := ⟨rfl, rfl, nofun⟩
  have hload : LoadsTwin true (Scenario.load plan.environment tree entry)
      (Scenario.load picturedPlan.environment picturedTree entry) := by
    rw [load_entry, load_pictured]
    refine .loaded ⟨nofun, .cons (.refl true _) (.cons ?_ .nil)⟩
    exact ⟨rfl, rfl, rfl, rfl, nofun⟩
  have hcalm {w : World (Nat → List Call)} (hw : w.IsCalm) (p : Program ScenarioResult) :
      (p.run w { State.initial (fun _ => []) none with notes := [] }).2.cancelled = false :=
    (isCalm_run hw p ⟨rfl, rfl⟩).1
  have hc : plainRun.2.cancelled = false := hcalm (busy.isCalm_host true (fun _ => rfl) _) _
  have hc' : picturedRun.2.cancelled = false := by
    refine hcalm (busy.isCalm_host true (fun c => ?_) _) _
    cases c <;> rfl
  exact ⟨hplain, hpictured, hplan, hload, hc, hc',
    sameOutcome_of_scenario hplain hpictured hplan hload (State.initial (fun _ => []) none)
      (State.initial (fun _ => []) none) hc hc'⟩

end Sample

end Run
end Walkthrough
