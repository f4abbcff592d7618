import Mathlib.Data.List.Nodup
import Walkthrough.Proofs.Crew
import Walkthrough.Proofs.Scenario
import Walkthrough.Run.Basic

/-!
# Walkthrough.Proofs.Turns

The turns of the scenarios of a run, one after the other or side by side.

* `ends_admitted`: a scenario whose turn it is goes ahead, or the run is cancelled.
* `outcome_of_inTurn`, `outcome_of_crew`: what the turns leave in the record, for the two ways of a
  run.
* `outcome_of_run`: in both ways every selected scenario has had its turn (`Outcome`).
-/

namespace Walkthrough
namespace Run

open Browser Report

/-! ## What scenarios ask -/

/-- A request that needs no place among the workers. -/
def Request.IsProper (r : Request) : Prop := r ≠ .permit ∧ r.Heeds

theorem Request.IsInSession.isProper {session : Nat} {r : Request} (h : r.IsInSession session) :
    r.IsProper := by
  cases r with
  | permit => exact h.elim False.elim False.elim
  | shielded s c limit =>
    rcases h with h | h
    · exact h.elim
    · exact ⟨nofun, by simp only [Request.Heeds, Call.mayComeLate, h.2, Bool.true_or]⟩
  | _ => exact ⟨nofun, trivial⟩

section Scenario

variable {plan : Config.Plan} {tree : Files.Tree} {entry : Config.Entry} {xs : List Exchange}

theorem isProper_scenario (plan : Config.Plan) (tree : Files.Tree) (entry : Config.Entry) :
    (scenario plan tree entry).Asks Request.IsProper :=
  asks_scenario ⟨nofun, trivial⟩ ⟨nofun, trivial⟩ (fun _ => ⟨nofun, rfl⟩) fun d session =>
    ((isUnited_performer plan d.name session).steps.asks_runAll d.steps).mono fun _ =>
      Request.IsInSession.isProper

/-- A scenario whose turn it is goes ahead, or the run is cancelled. -/
theorem ends_admitted {r? : Option ScenarioResult} (h : Ends (admitted plan tree entry) xs r?) :
    (xs = [⟨.token .scenario, true⟩] ∧ r? = none) ∨
      ∃ ys r, xs = ⟨.token .scenario, false⟩ :: ys ∧ r? = some r ∧
        Ends (scenario plan tree entry) ys r := by
  obtain ⟨cancelled, ys, hrest, rfl⟩ := ends_ask_bind.1 h
  cases (cancelled : Bool) with
  | true =>
    obtain ⟨rfl, rfl⟩ := ends_pure.1 hrest
    exact .inl ⟨rfl, rfl⟩
  | false =>
    obtain ⟨r, hr, rfl⟩ := ends_map.1 hrest
    exact .inr ⟨ys, r, rfl, rfl, hr⟩

theorem ends_admitted_none :
    Ends (admitted plan tree entry) [⟨.token .scenario, true⟩] none :=
  ends_ask_bind.2 ⟨true, [], ends_pure.2 ⟨rfl, rfl⟩, rfl⟩

theorem asks_admitted {P : Request → Prop} (htoken : P (.token .scenario))
    (h : (scenario plan tree entry).Asks P) : (admitted plan tree entry).Asks P :=
  asks_bind (asks_ask htoken) fun _ => asks_ite (asks_pure none) (asks_map h)

theorem isProper_admitted (plan : Config.Plan) (tree : Files.Tree) (entry : Config.Entry) :
    (admitted plan tree entry).Asks Request.IsProper :=
  asks_admitted ⟨nofun, trivial⟩ (isProper_scenario plan tree entry)

theorem isPlaced_placed (plan : Config.Plan) (tree : Files.Tree) (entry : Config.Entry) :
    (placed plan tree entry).IsPlaced :=
  ⟨fun _ => admitted plan tree entry, rfl, fun _ => isProper_admitted plan tree entry⟩

theorem isPlaced_of_mem (plan : Config.Plan) (tree : Files.Tree) :
    ∀ p ∈ plan.selected.map (placed plan tree), p.IsPlaced :=
  List.forall_mem_map.2 fun entry _ => isPlaced_placed plan tree entry

end Scenario

/-! ## Turns -/

section Turns

variable {σ : Type} {start : Bool} {plan : Config.Plan} {tree : Files.Tree}

/-- The turn of a scenario: its result is the end of a course, whose events were noted, and it went
ahead unless the run is cancelled. -/
def Turn (plan : Config.Plan) (tree : Files.Tree) (entry : Config.Entry) (st : State σ)
    (es : List Event) (r? : Option ScenarioResult) : Prop :=
  ∃ h, Ends (admitted plan tree entry) h r? ∧ Recounts h es ∧
    ∀ next, ⟨.token next, true⟩ ∈ h → st.cancelled = true

theorem Turn.mono {entry : Config.Entry} {st st' : State σ} {es : List Event}
    {r? : Option ScenarioResult} (h : Turn plan tree entry st es r?)
    (hc : st.cancelled = true → st'.cancelled = true) : Turn plan tree entry st' es r? := by
  obtain ⟨xs, hends, hrecounts, hhalted⟩ := h
  exact ⟨xs, hends, hrecounts, fun next hx => hc (hhalted next hx)⟩

theorem turn_none {entry : Config.Entry} {st : State σ} (hc : st.cancelled = true) :
    Turn plan tree entry st [] none :=
  ⟨_, ends_admitted_none, .single (.halt .scenario), fun _ _ => hc⟩

theorem Turn.cancelled {entry : Config.Entry} {st : State σ} {es : List Event}
    (h : Turn plan tree entry st es none) : st.cancelled = true := by
  obtain ⟨xs, hends, -, hhalted⟩ := h
  rcases ends_admitted hends with ⟨rfl, -⟩ | ⟨_, _, -, hr, -⟩
  · exact hhalted _ (List.mem_singleton_self _)
  · cases hr

theorem takeTurn_spec (w : World σ) (plan : Config.Plan) (tree : Files.Tree) (entry : Config.Entry)
    (place : Nat) {st : State σ} (h : Kept start st) :
    ∃ es, Advances { st with place := place } (takeTurn w plan tree entry place st).2 es ∧
      Kept start (takeTurn w plan tree entry place st).2 ∧
      Turn plan tree entry (takeTurn w plan tree entry place st).2 es
        (takeTurn w plan tree entry place st).1 := by
  have hasks : (admitted plan tree entry).Asks Request.Heeds :=
    (isProper_admitted plan tree entry).mono fun _ hr => hr.2
  have hkept : Kept start { st with place := place } := ⟨h.lawful, h.flag, h.fresh⟩
  obtain ⟨xs, es, hends, hrecounts, hadvances, hkept', hhalted⟩ := run_spec w hasks hkept
  exact ⟨es, hadvances, hkept', xs, hends, hrecounts, hhalted⟩

/-- The results of turns, with their places. -/
def placedResults (o : Nat → Option ScenarioResult) (places : List Nat) :
    List (Nat × ScenarioResult) :=
  places.filterMap fun i => (o i).map fun r => (i, r)

/-- Scenarios have taken their turns one after the other. -/
structure InTurn (start : Bool) (plan : Config.Plan) (tree : Files.Tree)
    (entries : List (Config.Entry × Nat)) (st st' : State σ) (rs : List (Nat × ScenarioResult))
    (o : Nat → Option ScenarioResult) : Prop where
  kept : Kept start st'
  turns : ∀ entry i, (entry, i) ∈ entries →
    ∃ es, eventsAt i st'.notes = eventsAt i st.notes ++ es ∧ Turn plan tree entry st' es (o i)
  elsewhere : ∀ i, i ∉ entries.map Prod.snd → eventsAt i st'.notes = eventsAt i st.notes
  cancelled : st.cancelled = true → st'.cancelled = true
  results : rs = placedResults o (entries.map Prod.snd)
  order : (entries.map Prod.snd).Pairwise fun i j => o i = none → o j = none

theorem inTurn_cons_none (w : World σ) {entry : Config.Entry} {i : Nat} {st st' : State σ}
    (h : takeTurn w plan tree entry i st = (none, st')) (rest : List (Config.Entry × Nat)) :
    (inTurn (takeTurn w plan tree) ((entry, i) :: rest)).run st = ([], st') := by
  have hrun : (takeTurn w plan tree entry i).run st = _ := h
  rw [inTurn, StateT.run_bind, hrun]
  rfl

theorem inTurn_cons_some (w : World σ) {entry : Config.Entry} {i : Nat} {st st' : State σ}
    {r : ScenarioResult} (h : takeTurn w plan tree entry i st = (some r, st'))
    (rest : List (Config.Entry × Nat)) :
    (inTurn (takeTurn w plan tree) ((entry, i) :: rest)).run st =
      ((i, r) :: ((inTurn (takeTurn w plan tree) rest).run st').1,
        ((inTurn (takeTurn w plan tree) rest).run st').2) := by
  have hrun : (takeTurn w plan tree entry i).run st = _ := h
  rw [inTurn, StateT.run_bind, hrun]
  rfl

/-- The first scenario got no turn, and so do the others. -/
theorem inTurn_of_none {entry : Config.Entry} {i : Nat} {rest : List (Config.Entry × Nat)}
    {st st' : State σ} {es : List Event} (hi : i ∉ rest.map Prod.snd)
    (ha : Advances { st with place := i } st' es) (hkept : Kept start st')
    (hturn : Turn plan tree entry st' es none) :
    InTurn start plan tree ((entry, i) :: rest) st st' [] fun _ => none where
  kept := hkept
  turns entry' j hj := by
    rcases List.mem_cons.1 hj with heq | hj
    · obtain ⟨rfl, rfl⟩ := Prod.mk.inj heq
      exact ⟨es, ha.here, hturn⟩
    · have hne : j ≠ i := fun heq => hi (heq ▸ List.mem_map_of_mem hj)
      exact ⟨[], by rw [List.append_nil]; exact ha.elsewhere j hne, turn_none hturn.cancelled⟩
  elsewhere j hj := ha.elsewhere j fun heq => hj (heq ▸ List.mem_cons_self)
  cancelled := ha.cancelled
  results := by simp [placedResults]
  order := List.pairwise_iff_getElem.2 fun _ _ _ _ _ _ => rfl

/-- The first scenario has a result, and the others take their turns. -/
theorem inTurn_of_some {entry : Config.Entry} {i : Nat} {rest : List (Config.Entry × Nat)}
    {st st' st'' : State σ} {es : List Event} {r : ScenarioResult}
    {rs : List (Nat × ScenarioResult)} {o : Nat → Option ScenarioResult}
    (hi : i ∉ rest.map Prod.snd) (ha : Advances { st with place := i } st' es)
    (hturn : Turn plan tree entry st' es (some r)) (h : InTurn start plan tree rest st' st'' rs o) :
    InTurn start plan tree ((entry, i) :: rest) st st'' ((i, r) :: rs)
      (fun j => if j = i then some r else o j) := by
  have hne {j : Nat} (hj : j ∈ rest.map Prod.snd) : j ≠ i := fun heq => hi (heq ▸ hj)
  have hother {j : Nat} (hj : j ∈ rest.map Prod.snd) : (if j = i then some r else o j) = o j :=
    if_neg (hne hj)
  refine ⟨h.kept, ?_, ?_, fun hc => h.cancelled (ha.cancelled hc), ?_, ?_⟩
  · intro entry' j hj
    rcases List.mem_cons.1 hj with heq | hj
    · obtain ⟨rfl, rfl⟩ := Prod.mk.inj heq
      refine ⟨es, ?_, ?_⟩
      · rw [h.elsewhere j hi]
        exact ha.here
      · rw [if_pos rfl]
        exact hturn.mono h.cancelled
    · have hmem : j ∈ rest.map Prod.snd := List.mem_map_of_mem hj
      obtain ⟨fs, hevents, hturn'⟩ := h.turns entry' j hj
      refine ⟨fs, ?_, by rw [hother hmem]; exact hturn'⟩
      rw [hevents, ha.elsewhere j (hne hmem)]
  · intro j hj
    obtain ⟨hji, hj⟩ := not_or.1 fun hor => hj (List.mem_cons.2 hor)
    rw [h.elsewhere j hj, ha.elsewhere j hji]
  · rw [h.results]
    simp only [List.map_cons, placedResults, List.filterMap_cons, if_true, Option.map_some]
    exact congrArg _ (List.filterMap_congr fun j hj => by rw [hother hj])
  · refine List.pairwise_cons.2 ⟨fun j hj hnone => ?_, h.order.imp_of_mem fun {j k} hj hk hjk => ?_⟩
    · simp at hnone
    · rw [hother hj, hother hk]
      exact hjk

theorem inTurn_spec (w : World σ) (plan : Config.Plan) (tree : Files.Tree)
    {entries : List (Config.Entry × Nat)} (hplaces : (entries.map Prod.snd).Nodup) {st : State σ}
    (h : Kept start st) :
    ∃ o, InTurn start plan tree entries st ((inTurn (takeTurn w plan tree) entries).run st).2
      ((inTurn (takeTurn w plan tree) entries).run st).1 o := by
  induction entries generalizing st with
  | nil => exact ⟨fun _ => none, h, nofun, fun _ _ => rfl, id, rfl, .nil⟩
  | cons first rest ih =>
    obtain ⟨entry, i⟩ := first
    obtain ⟨hi, hrest⟩ := List.nodup_cons.1 hplaces
    obtain ⟨es, hadvances, hkept, hturn⟩ := takeTurn_spec w plan tree entry i h
    generalize htake : takeTurn w plan tree entry i st = taken at hadvances hkept hturn
    obtain ⟨r?, st'⟩ := taken
    cases r? with
    | none =>
      rw [inTurn_cons_none w htake]
      exact ⟨_, inTurn_of_none hi hadvances hkept hturn⟩
    | some r =>
      obtain ⟨o, ho⟩ := ih hrest hkept
      rw [inTurn_cons_some w htake]
      exact ⟨_, inTurn_of_some hi hadvances hturn ho⟩

/-! ## Side by side -/

/-- A slot that is done has had its turn, and a place among the workers before it. -/
theorem turn_of_done {entry : Config.Entry} {i : Nat} {st : State σ} {h : List Exchange}
    {r? : Option ScenarioResult} (ht : (Slot.done r?).Tells st i (placed plan tree entry) h) :
    Turn plan tree entry st (eventsAt i st.notes) r? := by
  obtain ⟨a, ys, hends, hcourse⟩ := ends_ask_bind.1 ht.course
  obtain ⟨gs, fs, hevents, hrecounts, hfs⟩ := ht.events
  obtain rfl : fs = [] := hfs
  subst hcourse
  obtain ⟨es₁, es₂, hpermit, hys, rfl⟩ := Recounts.cons_iff.1 hrecounts
  cases hpermit
  refine ⟨ys, hends, ?_, fun next hx => ht.halted next (List.mem_cons_of_mem _ hx)⟩
  rw [hevents, List.append_nil]
  exact hys

/-- The value of a slot that is done. -/
def Slot.result {α : Type} (slots : List (Slot (Option α))) (i : Nat) : Option α :=
  match slots[i]? with
  | some (.done r?) => r?
  | _ => none

theorem Slot.result_of_done {α : Type} {slots : List (Slot (Option α))} {i : Nat} {r? : Option α}
    (h : slots[i]? = some (.done r?)) : Slot.result slots i = r? := by
  simp only [Slot.result, h]

/-- When all slots are done, what is finished are their values with their places. -/
theorem finished_perm {α : Type} {finished : List (Nat × Option α)}
    {slots : List (Slot (Option α))} (hplaces : (finished.map Prod.fst).Nodup)
    (hfinished : ∀ i a, (i, a) ∈ finished ↔ slots[i]? = some (.done a))
    (hdone : ∀ (i : Nat) (slot : Slot (Option α)), slots[i]? = some slot → ∃ a, slot = .done a) :
    finished.Perm ((List.range slots.length).map fun i => (i, Slot.result slots i)) := by
  have hnodup : ((List.range slots.length).map fun i => (i, Slot.result slots i)).Nodup := by
    have hrange : ((List.range slots.length).map fun i => (i, Slot.result slots i)).map Prod.fst =
        List.range slots.length := by
      rw [List.map_map]
      exact List.map_id _
    refine List.Nodup.of_map Prod.fst ?_
    rw [hrange]
    exact List.nodup_range
  refine (List.perm_ext_iff_of_nodup (hplaces.of_map Prod.fst) hnodup).2 ?_
  intro q
  obtain ⟨i, a⟩ := q
  rw [hfinished, List.mem_map]
  constructor
  · intro hget
    obtain ⟨hlt, -⟩ := List.getElem?_eq_some_iff.1 hget
    exact ⟨i, List.mem_range.2 hlt, by rw [Slot.result_of_done hget]⟩
  · rintro ⟨j, hj, heq⟩
    obtain ⟨rfl, rfl⟩ := Prod.mk.inj heq
    have hget := List.getElem?_eq_getElem (List.mem_range.1 hj)
    obtain ⟨b, hb⟩ := hdone j _ hget
    rw [hb] at hget
    rw [hget, Slot.result_of_done hget]

/-! ## Both ways of a run -/

/-- How a run ends: every selected scenario has had its turn, and the results are those of the
turns. -/
structure Outcome (start : Bool) (plan : Config.Plan) (tree : Files.Tree)
    (rs : List (Nat × ScenarioResult)) (st : State σ) (o : Nat → Option ScenarioResult) : Prop where
  kept : Kept start st
  turns : ∀ i entry, plan.selected[i]? = some entry →
    Turn plan tree entry st (eventsAt i st.notes) (o i)
  elsewhere : ∀ i, plan.selected.length ≤ i → eventsAt i st.notes = []
  results : rs.Perm (placedResults o (List.range plan.selected.length))
  /-- One after the other, no scenario has a result after one that has none. -/
  order : isParallel plan = false →
    (List.range plan.selected.length).Pairwise fun i j => o i = none → o j = none

theorem kept_initial {st : State σ} (hnotes : st.notes = []) : Kept st.cancelled st where
  lawful := by
    rw [hnotes]
    trivial
  flag := by simp [Stopped, hnotes]
  fresh m p s hm := by
    rw [hnotes] at hm
    cases hm

theorem map_snd_zipIdx {α : Type} (l : List α) : l.zipIdx.map Prod.snd = List.range l.length := by
  rw [List.zipIdx_map_snd, List.range_eq_range']

theorem outcome_of_inTurn (w : World σ) {st : State σ} (hnotes : st.notes = []) :
    ∃ o, Outcome st.cancelled plan tree
      ((inTurn (takeTurn w plan tree) plan.selected.zipIdx).run st).1
      ((inTurn (takeTurn w plan tree) plan.selected.zipIdx).run st).2 o := by
  have hplaces : (plan.selected.zipIdx.map Prod.snd).Nodup := by
    rw [map_snd_zipIdx]
    exact List.nodup_range
  obtain ⟨o, ho⟩ := inTurn_spec w plan tree hplaces (kept_initial hnotes)
  refine ⟨o, ho.kept, fun i entry hi => ?_, fun i hi => ?_, ?_, fun _ => ?_⟩
  · obtain ⟨es, hevents, hturn⟩ := ho.turns entry i (List.mem_zipIdx_iff_getElem?.2 hi)
    rw [hevents, hnotes, eventsAt_nil, List.nil_append]
    exact hturn
  · rw [ho.elsewhere i, hnotes, eventsAt_nil]
    rw [map_snd_zipIdx, List.mem_range]
    exact Nat.not_lt.2 hi
  · rw [ho.results, map_snd_zipIdx]
  · rw [← map_snd_zipIdx]
    exact ho.order

/-- Once no scenario goes on any more, the results are those of the turns of the scenarios, in
whatever order they went on, in time or late. -/
theorem outcome_of_crew {w : World σ} (hparallel : isParallel plan = true) {st : State σ}
    (hnotes : st.notes = []) {crew : Crew σ (Option ScenarioResult)}
    (hreaches : Crew.Reaches w
      (Crew.start (workers plan) (plan.selected.map (placed plan tree)) st) crew)
    (hstuck : crew.enabled = []) :
    ∃ o, Outcome st.cancelled plan tree
      (crew.finished.filterMap fun r => r.2.map fun a => (r.1, a)) crew.state o := by
  have hps := isPlaced_of_mem plan tree
  obtain ⟨hsound, hworkers⟩ := hreaches.induction
    (I := fun c => Crew.Sound st.cancelled (plan.selected.map (placed plan tree)) c ∧
      c.workers = workers plan)
    (fun c i hc hi => ⟨hc.1.move hps hi, (Crew.workers_move w c i).trans hc.2⟩)
    ⟨Crew.sound_start hps (kept_initial hnotes) hnotes (workers plan), rfl⟩
  have hpos : 0 < crew.workers := by
    rw [hworkers]
    exact Nat.le_max_left 1 _
  have hdone (i : Nat) (slot : Slot (Option ScenarioResult)) (hget : crew.slots[i]? = some slot) :
      ∃ a, slot = .done a :=
    hsound.done_of_stuck hps hpos hstuck hget
  have hlength : crew.slots.length = plan.selected.length := by
    rw [hsound.length, List.length_map]
  refine ⟨Slot.result crew.slots, hsound.kept, fun i entry hi => ?_, fun i hi => ?_, ?_,
    fun hnot => ?_⟩
  · obtain ⟨hlt, -⟩ := List.getElem?_eq_some_iff.1 hi
    have hget := List.getElem?_eq_getElem (hlength ▸ hlt : i < crew.slots.length)
    obtain ⟨r?, hr⟩ := hdone i _ hget
    rw [hr] at hget
    obtain ⟨h, ht⟩ := hsound.tells i _ _ (by rw [List.getElem?_map, hi]; rfl) hget
    rw [Slot.result_of_done hget]
    exact turn_of_done ht
  · exact hsound.elsewhere i (by rwa [List.length_map])
  · have hperm := finished_perm hsound.places hsound.finished hdone
    rw [hlength] at hperm
    refine (hperm.filterMap _).trans (List.Perm.of_eq ?_)
    rw [List.filterMap_map]
    rfl
  · rw [hparallel] at hnot
    cases hnot

/-- Whatever the schedule, the results of a run are those of the turns of its scenarios. -/
theorem outcome_of_results (w : World σ) (schedule : Crew.Schedule σ (Option ScenarioResult))
    (plan : Config.Plan) (tree : Files.Tree) (st : State σ) (hnotes : st.notes = []) :
    ∃ o, Outcome st.cancelled plan tree (results w schedule plan tree st).1
      (results w schedule plan tree st).2 o := by
  unfold results
  split
  · next hparallel =>
    exact outcome_of_crew hparallel hnotes (Crew.reaches_run w schedule _)
      (Crew.enabled_run w schedule _)
  · exact outcome_of_inTurn w hnotes

/-- Whoever cancels the run at its end changes nothing but that. -/
theorem Outcome.heed {start : Bool} {rs : List (Nat × ScenarioResult)} {st : State σ}
    {o : Nat → Option ScenarioResult} (h : Outcome start plan tree rs st o) (w : World σ)
    (r : Request) : Outcome start plan tree rs (st.heed w r) o := by
  have ha := Advances.heed w st r
  refine ⟨h.kept.heed w r, fun i entry hi => ?_, fun i hi => ?_, h.results, h.order⟩
  · rw [ha.eventsAt_eq]
    exact (h.turns i entry hi).mono ha.cancelled
  · rw [ha.eventsAt_eq]
    exact h.elsewhere i hi

/-- Whatever the plan, the world, the schedule and the moment at which the run is cancelled, a run
reports the results of the turns of its scenarios. -/
theorem outcome_of_run (w : World σ) (schedule : Crew.Schedule σ (Option ScenarioResult))
    (plan : Config.Plan) (tree : Files.Tree) (runId : String) (st : State σ) :
    ∃ rs o, Outcome st.cancelled plan tree rs (run w schedule plan tree runId st).2 o ∧
      (run w schedule plan tree runId st).1 =
        reportOf plan runId (w.wall st.now) (w.wall (run w schedule plan tree runId st).2.now)
          (run w schedule plan tree runId st).2.cancelled rs := by
  obtain ⟨o, ho⟩ := outcome_of_results w schedule plan tree (armed plan st) rfl
  exact ⟨_, o, ho.heed w .now, rfl⟩

end Turns

end Run
end Walkthrough
