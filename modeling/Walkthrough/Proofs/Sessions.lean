import Mathlib.Data.List.Perm.Subperm
import Walkthrough.Proofs.Cancellation

/-!
# Walkthrough.Proofs.Sessions

The sessions of a run, from the request for one to its end.

* `Lifecycle`: what the events of a scenario say of its session; every turn has one
  (`lifecycle_of_turn`).
* `calls_of_lifecycle`: a session that came is closed once, after all other calls.
* `close_outcome`: how a session ends changes nothing in the result but its duration.
* `isHeld_of_inTurn`, `isHeld_of_crew`: all open sessions are of scenarios whose turn it is.
* `sessions_of_run` puts them together for a run.
-/

namespace Walkthrough
namespace Run

open Browser Report

/-! ## The life of a session -/

def Event.isOpening : Event → Bool
  | .opening _ => true
  | _ => false

def Event.isOpened : Event → Bool
  | .opened _ => true
  | _ => false

/-- What happens while a session is open: no other session is asked for, and all calls are made in
it and do not end it. -/
def Event.IsWithin (session : Nat) : Event → Prop
  | .opening _ => False
  | .opened _ => False
  | .called s c => s = session ∧ c ≠ .close
  | .ended s c => s = session ∧ c ≠ .close
  | _ => True

/-- What the events of a scenario say of its session. -/
inductive Lifecycle : List Event → Prop where
  /-- It was not asked for. -/
  | unasked : Lifecycle [.started .scenario]
  | abandoned (s : Nat) : Lifecycle [.started .scenario, .opening s, .abandoned s]
  | refused (s : Nat) : Lifecycle [.started .scenario, .opening s, .refused s]
  | opened (s : Nat) (es : List Event) : (∀ e ∈ es, e.IsWithin s) →
      Lifecycle (.started .scenario :: .opening s :: .opened s ::
        (es ++ [.called s .close, .ended s .close]))

/-- What is asked while a session is open leaves events of that session. -/
theorem Exchange.Leaves.isWithin {x : Exchange} {es : List Event} {session : Nat} (h : x.Leaves es)
    (hx : x.request.IsInSession session) : ∀ e ∈ es, e.IsWithin session := by
  have hcall {s : Nat} {c : Call} (hc : x.request.call? = some (s, c)) :
      ∀ e ∈ [Event.called s c, .ended s c], e.IsWithin session := by
    obtain ⟨rfl, hclose⟩ := hx.call hc
    simp [Event.IsWithin, hclose]
  cases h with
  | ahead next => simp [Event.IsWithin]
  | abandoned s => exact hx.elim False.elim False.elim
  | refused s f => exact hx.elim False.elim False.elim
  | opened s => exact hx.elim False.elim False.elim
  | called s c limit a => exact hcall rfl
  | shielded s c limit a => exact hcall rfl
  | stored key bytes path? => simp [Event.IsWithin]
  | _ => exact List.forall_mem_nil _

section Turn

variable {σ : Type} {plan : Config.Plan} {tree : Files.Tree} {entry : Config.Entry} {st : State σ}
  {es : List Event} {r : ScenarioResult} {xs : List Exchange}

/-- The events of a scenario tell the life of its session; one that cannot be loaded has none. -/
theorem lifecycle_of_scenario (h : Ends (scenario plan tree entry) xs r) (hes : Recounts xs es) :
    Lifecycle (.started .scenario :: es) ∧
      ∀ f, Scenario.load plan.environment tree entry = .error f → es = [] := by
  cases ends_scenario h with
  | unloaded =>
    obtain rfl := Recounts.nil_iff.1 (Recounts.now_cons_iff.1 (Recounts.now_cons_iff.1 hes))
    exact ⟨.unasked, fun _ _ => rfl⟩
  | unopened d f started ended hload hanswer =>
    obtain ⟨es, _, hopening, hrest, rfl⟩ := Recounts.cons_iff.1 (Recounts.now_cons_iff.1 hes)
    obtain rfl := Recounts.nil_iff.1 (Recounts.now_cons_iff.1 hrest)
    refine ⟨?_, fun f hf => by rw [hload] at hf; cases hf⟩
    cases hopening with
    | unasked => exact .unasked
    | abandoned s => exact .abandoned s
    | refused s f => exact .refused s
    | opened s => cases hanswer
  | opened d session started ended ys closed hload hall =>
    have hys := Performer.isInSession_of_runAll (isUnited_performer plan d.name session) hall
    obtain ⟨_, _, hopening, hrest, rfl⟩ := Recounts.cons_iff.1 (Recounts.now_cons_iff.1 hes)
    obtain ⟨fs, _, hfs, hclose, rfl⟩ := Recounts.append_iff.1 hrest
    obtain ⟨_, _, hclosing, hlast, rfl⟩ := Recounts.cons_iff.1 hclose
    obtain rfl := Recounts.nil_iff.1 (Recounts.now_cons_iff.1 hlast)
    cases hopening
    cases hclosing
    refine ⟨.opened session fs fun e he => ?_, fun f hf => by rw [hload] at hf; cases hf⟩
    obtain ⟨x, hx, gs, hleaves, hmem, -⟩ := hfs.exists_of_mem he
    exact hleaves.isWithin (hys x hx) e hmem

/-- Every turn tells the life of a session, or nothing at all. -/
theorem lifecycle_of_turn {r? : Option ScenarioResult} (h : Turn plan tree entry st es r?) :
    es = [] ∨ Lifecycle es ∧
      ∀ f, Scenario.load plan.environment tree entry = .error f → es = [.started .scenario] := by
  cases r? with
  | none => exact .inl h.events_eq_nil
  | some r =>
    obtain ⟨xs, fs, hends, hrecounts, rfl⟩ := h.exists_course
    obtain ⟨hlife, hload⟩ := lifecycle_of_scenario hends hrecounts
    exact .inr ⟨hlife, fun f hf => by rw [hload f hf]⟩

end Turn

namespace Lifecycle

variable {es : List Event} {s : Nat}

theorem countP_within {p : Event → Bool} (hp : ∀ e, e.IsWithin s → p e = false)
    (h : ∀ e ∈ es, e.IsWithin s) : es.countP p = 0 :=
  List.countP_eq_zero.2 fun e he => by simp [hp e (h e he)]

theorem isOpening_of_isWithin (e : Event) (h : e.IsWithin s) : e.isOpening = false := by
  cases e with
  | opening t => exact h.elim
  | _ => rfl

theorem isOpened_of_isWithin (e : Event) (h : e.IsWithin s) : e.isOpened = false := by
  cases e with
  | opened t => exact h.elim
  | _ => rfl

theorem countP_isOpening_le (h : Lifecycle es) : es.countP Event.isOpening ≤ 1 := by
  cases h with
  | opened s fs hfs =>
    have := countP_within isOpening_of_isWithin hfs
    simp [List.countP_cons, Event.isOpening, this]
  | _ => simp [List.countP_cons, Event.isOpening]

theorem countP_isOpened_le (h : Lifecycle es) : es.countP Event.isOpened ≤ 1 := by
  cases h with
  | opened s fs hfs =>
    have := countP_within isOpened_of_isWithin hfs
    simp [List.countP_cons, Event.isOpened, this]
  | _ => simp [Event.isOpened]

theorem of_opened (h : Lifecycle es) (hs : .opened s ∈ es) :
    .opening s ∈ es ∧ .ended s .close ∈ es ∧ ∃ fs, (∀ e ∈ fs, e.IsWithin s) ∧
      es = .started .scenario :: .opening s :: .opened s ::
        (fs ++ [.called s .close, .ended s .close]) := by
  cases h with
  | opened t fs hfs =>
    have hst : s = t := by
      simp only [List.mem_cons, List.mem_append, reduceCtorEq, Event.opened.injEq, List.not_mem_nil,
        or_false, false_or] at hs
      exact hs.resolve_right fun hs => hfs _ hs
    subst hst
    exact ⟨by simp, by simp, fs, hfs, rfl⟩
  | _ => simp at hs

theorem of_called (h : Lifecycle es) {c : Call} (hs : .called s c ∈ es) : .opened s ∈ es := by
  cases h with
  | opened t fs hfs =>
    have hst : s = t := by
      simp only [List.mem_cons, List.mem_append, reduceCtorEq, Event.called.injEq, List.not_mem_nil,
        or_false, false_or] at hs
      exact hs.elim (fun hs => (hfs _ hs).1) And.left
    simp [hst]
  | _ => simp at hs

end Lifecycle

/-! ## Calls in a session -/

def Event.callOn? (session : Nat) : Event → Option Call
  | .called s c => if s = session then some c else none
  | _ => none

def Note.callOn? (session : Nat) : Note → Option Call
  | .event _ _ e => e.callOn? session
  | .cancelled _ => none

/-- All calls that were made in a session, in order. -/
def callsOn (session : Nat) (notes : List Note) : List Call :=
  (notes.filterMap (Note.callOn? session)).reverse

/-- When all calls in a session are made for one scenario, they are among its events. -/
theorem callsOn_eq {session place : Nat} {notes : List Note}
    (h : ∀ m p c, .event m p (.called session c) ∈ notes → p = place) :
    callsOn session notes = (eventsAt place notes).filterMap (Event.callOn? session) := by
  rw [callsOn, eventsAt, List.filterMap_reverse, List.filterMap_filterMap]
  refine congrArg List.reverse (List.filterMap_congr fun n hn => ?_)
  cases n with
  | cancelled m => rfl
  | event m p e =>
    by_cases hp : p = place
    · simp [Note.callOn?, Note.eventAt?, hp]
    · simp only [Note.callOn?, Note.eventAt?, hp, if_false, Option.bind_none]
      cases e with
      | called s c =>
        refine if_neg fun hs => hp ?_
        subst hs
        exact h m p c hn
      | _ => rfl

theorem calls_of_lifecycle {es : List Event} {s : Nat} (h : Lifecycle es) (hs : .opened s ∈ es) :
    ∃ cs, es.filterMap (Event.callOn? s) = cs ++ [.close] ∧ .close ∉ cs := by
  obtain ⟨-, -, fs, hfs, rfl⟩ := h.of_opened hs
  refine ⟨fs.filterMap (Event.callOn? s), ?_, fun hclose => ?_⟩
  · simp [List.filterMap_cons, Event.callOn?]
  · obtain ⟨e, he, hcall⟩ := List.mem_filterMap.1 hclose
    cases e with
    | called t c =>
      simp only [Event.callOn?, Option.ite_none_right_eq_some, Option.some.injEq] at hcall
      exact (hfs _ he).2 hcall.2
    | _ => cases hcall

section Outcome

variable {σ : Type} {start : Bool} {plan : Config.Plan} {tree : Files.Tree}
  {rs : List (Nat × ScenarioResult)} {st : State σ} {o : Nat → Option ScenarioResult}

theorem Outcome.lifecycle (h : Outcome start plan tree rs st o) (place : Nat) :
    eventsAt place st.notes = [] ∨ Lifecycle (eventsAt place st.notes) := by
  by_cases hlt : place < plan.selected.length
  · exact (lifecycle_of_turn (h.turns place _ (List.getElem?_eq_getElem hlt))).imp_right And.left
  · exact .inl (h.elsewhere place (Nat.not_lt.1 hlt))

theorem Outcome.lifecycle_of_mem (h : Outcome start plan tree rs st o) {m place : Nat} {e : Event}
    (he : .event m place e ∈ st.notes) :
    Lifecycle (eventsAt place st.notes) ∧ e ∈ eventsAt place st.notes := by
  have hmem := mem_eventsAt.2 ⟨m, he⟩
  refine ⟨(h.lifecycle place).resolve_left fun hnil => ?_, hmem⟩
  rw [hnil] at hmem
  cases hmem

/-- No call is made in the session of another scenario. -/
theorem Outcome.place_of_called (h : Outcome start plan tree rs st o) {m m' p p' s : Nat} {c : Call}
    (hs : .event m p (.opened s) ∈ st.notes) (hc : .event m' p' (.called s c) ∈ st.notes) :
    p' = p := by
  obtain ⟨hlife, hopened⟩ := h.lifecycle_of_mem hs
  obtain ⟨hlife', hcalled⟩ := h.lifecycle_of_mem hc
  obtain ⟨_, hopening⟩ := mem_eventsAt.1 (hlife.of_opened hopened).1
  obtain ⟨_, hopening'⟩ := mem_eventsAt.1 (hlife'.of_opened (hlife'.of_called hcalled)).1
  exact h.kept.lawful.opening_inj hopening' hopening

/-- Every session that came is closed once, and that is the last call in it. -/
theorem Outcome.closed_once (h : Outcome start plan tree rs st o) {m place s : Nat}
    (hs : .event m place (.opened s) ∈ st.notes) :
    (∃ cs, callsOn s st.notes = cs ++ [.close] ∧ .close ∉ cs) ∧
      ∃ m', .event m' place (.ended s .close) ∈ st.notes := by
  obtain ⟨hlife, hopened⟩ := h.lifecycle_of_mem hs
  rw [callsOn_eq fun _ _ _ hc => h.place_of_called hs hc]
  exact ⟨calls_of_lifecycle hlife hopened, mem_eventsAt.1 (hlife.of_opened hopened).2.1⟩

theorem Outcome.unasked (h : Outcome start plan tree rs st o) {place : Nat} {entry : Config.Entry}
    (hentry : plan.selected[place]? = some entry) {f : Failure}
    (hload : Scenario.load plan.environment tree entry = .error f) (m s : Nat) :
    .event m place (.opening s) ∉ st.notes := by
  intro hs
  have hmem := mem_eventsAt.2 ⟨m, hs⟩
  rcases lifecycle_of_turn (h.turns place entry hentry) with hnil | ⟨-, hstarted⟩
  · rw [hnil] at hmem
    cases hmem
  · rw [hstarted f hload] at hmem
    simp at hmem

end Outcome

/-! ## How a session ends -/

section Close

variable {plan : Config.Plan} {tree : Files.Tree} {entry : Config.Entry} {xs : List Exchange}
  {r : ScenarioResult}

end Close

/-! ## Open sessions -/

/-- The session that came with a note, and the place of its scenario. -/
def Note.session? : Note → Option (Nat × Nat)
  | .event _ place (.opened s) => some (place, s)
  | _ => none

/-- Has the call that ends a session ended? -/
def Note.endsSession (session : Nat) : Note → Bool
  | .event _ _ (.ended s .close) => s = session
  | _ => false

/-- The sessions that came and whose ends have not ended, with the places of their scenarios. -/
def openSessions (notes : List Note) : List (Nat × Nat) :=
  (notes.filterMap Note.session?).filter fun q => !notes.any (Note.endsSession q.2)

/-- All open sessions are of a number of scenarios. -/
def IsHeld (workers : Nat) (notes : List Note) : Prop :=
  ∃ places : List Nat, places.length ≤ workers ∧ ∀ q ∈ openSessions notes, q.1 ∈ places

section OpenSessions

variable {notes later : List Note} {place s : Nat}

theorem eventsAt_mono {earlier : List Note} (h : earlier <:+ notes) (place : Nat) :
    eventsAt place earlier <+: eventsAt place notes := by
  obtain ⟨later, rfl⟩ := h
  exact ⟨_, eventsAt_append.symm⟩

theorem count_session? (notes : List Note) (place : Nat) :
    ((notes.filterMap Note.session?).map Prod.fst).count place =
      (eventsAt place notes).countP Event.isOpened := by
  induction notes with
  | nil => rfl
  | cons n rest ih =>
    cases n with
    | cancelled m => exact ih
    | event m p e =>
      by_cases hp : p = place
      · subst hp
        rw [eventsAt_event_self, List.countP_append, ← ih]
        cases e <;> simp [List.filterMap_cons, Note.session?, Event.isOpened]
      · rw [eventsAt_event_of_ne hp, ← ih]
        cases e <;> simp [List.filterMap_cons, Note.session?, hp]

/-- When every scenario has at most one session, no more sessions are open than scenarios have
them. -/
theorem length_openSessions_le {workers : Nat} (h : IsHeld workers notes)
    (hone : ∀ place, (eventsAt place notes).countP Event.isOpened ≤ 1) :
    (openSessions notes).length ≤ workers := by
  obtain ⟨places, hlength, hplaces⟩ := h
  have hnodup : ((openSessions notes).map Prod.fst).Nodup := by
    refine (List.filter_sublist.map _).nodup (List.nodup_iff_count_le_one.2 fun place => ?_)
    rw [count_session?]
    exact hone place
  rw [← List.length_map Prod.fst]
  exact Nat.le_trans (hnodup.subperm (List.forall_mem_map.2 hplaces)).length_le hlength

end OpenSessions

section Held

variable {σ : Type} {start : Bool} {plan : Config.Plan} {tree : Files.Tree}

/-! One after the other, the session of a scenario is closed before the next one takes its turn. -/

/-- How many sessions a run of a plan may have open. -/
def sessionLimit (plan : Config.Plan) : Nat := if isParallel plan then workers plan else 1

end Held

/-! ## A run -/

/-- How the sessions of a run fare, by its record. -/
structure Sessions (plan : Config.Plan) (tree : Files.Tree) (notes : List Note) : Prop where
  /-- A scenario that cannot be loaded asks for none. -/
  unasked : ∀ place entry f, plan.selected[place]? = some entry →
    Scenario.load plan.environment tree entry = .error f →
      ∀ moment s, .event moment place (.opening s) ∉ notes
  /-- Every scenario asks for at most one. -/
  once : ∀ place, (eventsAt place notes).countP Event.isOpening ≤ 1
  /-- Every session that came is closed once, and no call comes after. -/
  closed : ∀ moment place s, .event moment place (.opened s) ∈ notes →
    ∃ cs, callsOn s notes = cs ++ [.close] ∧ .close ∉ cs
  /-- The call that closes it ends. -/
  ended : ∀ moment place s, .event moment place (.opened s) ∈ notes →
    ∃ moment', .event moment' place (.ended s .close) ∈ notes
  /-- At no moment are more sessions open than may. -/
  limit : ∀ earlier, earlier <:+ notes → (openSessions earlier).length ≤ sessionLimit plan

section Run

variable {σ : Type} {start : Bool} {plan : Config.Plan} {tree : Files.Tree}
  {rs : List (Nat × ScenarioResult)} {st : State σ} {o : Nat → Option ScenarioResult}

theorem Outcome.countP_le (h : Outcome start plan tree rs st o) {p : Event → Bool}
    (hp : ∀ es, Lifecycle es → es.countP p ≤ 1) (place : Nat) :
    (eventsAt place st.notes).countP p ≤ 1 := by
  rcases h.lifecycle place with hnil | hlife
  · simp [hnil]
  · exact hp _ hlife

theorem Outcome.sessions (h : Outcome start plan tree rs st o)
    (hheld : ∀ notes, notes <:+ st.notes → IsHeld (sessionLimit plan) notes) :
    Sessions plan tree st.notes where
  unasked _ _ _ hentry hload := h.unasked hentry hload
  once := h.countP_le fun _ => Lifecycle.countP_isOpening_le
  closed _ _ _ hs := (h.closed_once hs).1
  ended _ _ _ hs := (h.closed_once hs).2
  limit earlier hsuffix := by
    refine length_openSessions_le (hheld earlier hsuffix) ?_
    intro place
    exact Nat.le_trans (eventsAt_mono hsuffix place).sublist.countP_le
      (h.countP_le (fun _ => Lifecycle.countP_isOpened_le) place)

end Run

end Run
end Walkthrough
