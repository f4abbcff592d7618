import Walkthrough.Proofs.Turns

/-!
# Walkthrough.Proofs.Calm

Runs that nobody cancels.

* `World.IsCalm`, `State.IsCalm`: no reaction cancels the run, nobody interrupts it, and it is not
  to be cancelled at any moment.
* `isCalm_begin`, `isCalm_finish`: the two moves of a request leave it so.
* `not_cancelled_of_calm`: such a run is not cancelled at its end.
-/

namespace Walkthrough
namespace Run

open Browser Report

section Calm

variable {σ : Type}

/-- Nothing that the world does cancels a run. -/
structure World.IsCalm (w : World σ) : Prop where
  opening : ∀ session world, (w.opening session world).1.cancels = false
  reaction : ∀ session c world, (w.reaction session c world).1.cancels = false
  storing : ∀ key bytes world, (w.storing key bytes world).1.cancels = false
  interrupts : ∀ r world, (w.interrupts r world).1 = false

/-- The run is not cancelled, and no moment is set at which it will be. -/
def State.IsCalm (st : State σ) : Prop := st.cancelled = false ∧ st.cancelAt = none

variable {w : World σ} {st : State σ} {r : Request}

theorem isCalm_note? (h : st.IsCalm) (e? : Option Event) : (st.note? e?).IsCalm := by
  cases e? with
  | none => exact h
  | some e => exact h

theorem isCalm_land (h : st.IsCalm) (l : Landing) : (land w st l).IsCalm := by
  have hnote := isCalm_note? h l.event?
  unfold land settle
  split
  · exact hnote
  · exact hnote

theorem isCalm_launch (h : st.IsCalm) (f : Flight r) : (launch w st f).2.IsCalm := by
  unfold launch
  split
  · exact isCalm_land h f.landing
  · split
    · exact isCalm_note? h _
    · exact h

theorem isCalm_stopIf (h : st.IsCalm) {stops : Bool} (hstops : stops = false) :
    (st.stopIf stops).IsCalm := by
  rw [hstops]
  exact h

theorem isCalm_heed (hw : w.IsCalm) (h : st.IsCalm) (r : Request) : (st.heed w r).IsCalm := by
  have hworld : State.IsCalm { st with world := (w.interrupts r st.world).2 } := h
  exact isCalm_stopIf hworld (hw.interrupts r st.world)

theorem isCalm_begin (hw : w.IsCalm) (h : st.IsCalm) (r : Request) : (begin w st r).2.IsCalm := by
  have hheed := isCalm_heed hw h r
  unfold begin
  generalize st.heed w r = st at hheed
  cases r with
  | token next =>
    unfold serve
    split
    · exact hheed
    · exact hheed
  | now => exact hheed
  | permit => exact hheed
  | openSession =>
    unfold serve
    split
    · exact hheed
    · refine isCalm_launch (isCalm_stopIf ?_ (hw.opening _ _)) _
      exact hheed
  | call session c limit =>
    unfold serve
    split
    · exact hheed
    · refine isCalm_launch (isCalm_stopIf ?_ (hw.reaction _ _ _)) _
      exact hheed
  | shielded session c limit =>
    refine isCalm_launch (isCalm_stopIf ?_ (hw.reaction _ _ _)) _
    exact hheed
  | rest span =>
    unfold serve
    split
    · exact hheed
    · exact isCalm_launch hheed _
  | store key bytes =>
    refine isCalm_launch (isCalm_stopIf ?_ (hw.storing _ _ _)) _
    exact hheed

theorem isCalm_finish (h : st.IsCalm) (f : Flight r) : (finish w st f).2.IsCalm := by
  have hat : f.cutAt? st = none := by
    simp [Flight.cutAt?, h.1, h.2]
  have hadvance : (st.advance f.due).IsCalm := by
    simp only [State.advance, h.2]
    exact h
  unfold finish
  split
  · next hcut =>
    rw [hat] at hcut
    cases hcut
  · exact isCalm_land hadvance f.landing

theorem isCalm_respond (hw : w.IsCalm) (h : st.IsCalm) (r : Request) :
    (respond w st r).2.IsCalm := by
  have hbegin := isCalm_begin hw h r
  unfold respond
  split
  · next heq =>
    rw [heq] at hbegin
    exact hbegin
  · next f _ heq =>
    rw [heq] at hbegin
    exact isCalm_finish hbegin f

theorem isCalm_run {α : Type} (hw : w.IsCalm) (p : Program α) (h : st.IsCalm) :
    (p.run w st).2.IsCalm := by
  induction p generalizing st with
  | pure a => exact h
  | perform r k ih => exact ih _ (isCalm_respond hw h r)

theorem isCalm_move {α : Type} (hw : w.IsCalm) {c : Crew σ α} (h : c.state.IsCalm) (i : Nat) :
    (c.move w i).state.IsCalm := by
  have hi : (c.stateOf i).IsCalm := h
  unfold Crew.move
  split
  · next working r k hget =>
    have hbegin := isCalm_begin hw hi r
    split
    · next heq =>
      rw [heq] at hbegin
      exact hbegin
    · next heq =>
      rw [heq] at hbegin
      exact hbegin
  · next f k hget => exact isCalm_finish hi f
  · exact h

theorem isCalm_inTurn (hw : w.IsCalm) (plan : Config.Plan) (tree : Files.Tree)
    (entries : List (Config.Entry × Nat)) (h : st.IsCalm) :
    ((inTurn (takeTurn w plan tree) entries).run st).2.IsCalm := by
  induction entries generalizing st with
  | nil => exact h
  | cons first rest ih =>
    obtain ⟨entry, place⟩ := first
    have hplace : State.IsCalm { st with place := place } := h
    have htake : (takeTurn w plan tree entry place st).2.IsCalm :=
      isCalm_run hw (admitted plan tree entry) hplace
    cases hresult : takeTurn w plan tree entry place st with
    | mk r? st' =>
      rw [hresult] at htake
      cases r? with
      | none =>
        rw [inTurn_cons_none w hresult]
        exact htake
      | some r =>
        rw [inTurn_cons_some w hresult]
        exact ih htake

/-- A run that nobody cancels is not cancelled. -/
theorem not_cancelled_of_calm (hw : w.IsCalm) (h : st.IsCalm)
    (schedule : Crew.Schedule σ (Option ScenarioResult)) {plan : Config.Plan}
    (hlimit : timeLimit plan = none) (tree : Files.Tree) (runId : String) :
    (run w schedule plan tree runId st).2.cancelled = false := by
  have harmed : (armed plan st).IsCalm := by
    refine ⟨h.1, ?_⟩
    simp only [armed, hlimit, h.2, Option.map_none, earlier]
  have hresults : (results w schedule plan tree (armed plan st)).2.IsCalm := by
    unfold results
    split
    · exact (Crew.reaches_run w schedule _).induction (I := fun c => c.state.IsCalm)
        (fun c i hc _ => isCalm_move hw hc i) harmed
    · exact isCalm_inTurn hw plan tree _ harmed
  exact (isCalm_heed hw hresults .now).1

end Calm

end Run
end Walkthrough
