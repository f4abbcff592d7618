import Walkthrough.Proofs.Serving

/-!
# Walkthrough.Proofs.Crew

Programs side by side, under every schedule, and even if answers are noticed late. Each of them
waits for its place among the workers before anything else.

* `Slot.Tells`: where a program stands agrees with what is noted for it.
* `move_spec`: a move takes one slot on by at most one exchange and leaves the others alone.
* `Sound`: no more programs work than may, and those that are done are finished once; `Sound.move`
  keeps it.
* `Reaches`: what comes of a crew when slots go on, in time or late; `Reaches.induction` says that
  what every move keeps holds there, and a run is a case of it (`reaches_run`).
* `Sound.done_of_stuck`: nobody waits for ever, so a run ends with all programs done.
-/

namespace Walkthrough
namespace Run

section Crew

variable {σ α : Type}

/-- A program that waits for its place among the workers, and only once. -/
def Program.IsPlaced (p : Program α) : Prop :=
  ∃ k, p = .perform .permit k ∧ ∀ u, (k u).Asks fun r => r ≠ .permit ∧ r.Heeds

theorem Course.asks_rest {P : Request → Prop} {p q : Program α} {xs : List Exchange}
    (h : Course p xs q) (hp : p.Asks P) : q.Asks P := by
  induction h with
  | refl _ => exact hp
  | step _ ih => exact ih (hp.2 _)

/-- A placed program asks for its place first and not again. -/
theorem Program.IsPlaced.permit_iff {p : Program α} (hp : p.IsPlaced) {h : List Exchange}
    {r : Request} {k : Answer r → Program α} (hc : Course p h (.perform r k)) :
    r = .permit ↔ h = [] := by
  obtain ⟨k₀, rfl, hk₀⟩ := hp
  constructor
  · rintro rfl
    cases hc with
    | refl _ => rfl
    | step hc => exact absurd rfl (hc.asks_rest (hk₀ _)).1.1
  · rintro rfl
    cases Course.nil_iff.1 hc
    rfl

theorem Program.IsPlaced.heeds {p : Program α} (hp : p.IsPlaced) {h : List Exchange} {r : Request}
    {k : Answer r → Program α} (hc : Course p h (.perform r k)) : r.Heeds := by
  obtain ⟨k₀, rfl, hk₀⟩ := hp
  cases hc with
  | refl _ => trivial
  | step hc => exact (hc.asks_rest (hk₀ _)).1.2

namespace Slot

/-- What is noted of the request that a slot waits for. -/
def Awaits : Slot α → List Event → Prop
  | .asking _ _ _, es => es = []
  | .flying _ _ f _, es => f.Fits es
  | .done _, es => es = []

/-- A slot and the record of a run agree on what the program at a place has gone through. -/
structure Tells (st : State σ) (place : Nat) (p : Program α) (h : List Exchange) (slot : Slot α) :
    Prop where
  course : Course p h slot.rest
  events : ∃ es fs, eventsAt place st.notes = es ++ fs ∧ Recounts h es ∧ slot.Awaits fs
  halted : ∀ next, ⟨.token next, true⟩ ∈ h → st.cancelled = true
  working : slot.value? = none → (slot.isWorking = true ↔ h ≠ [])

/-- A slot does not notice what happens for others. -/
theorem Tells.frame {st st' : State σ} {es : List Event} (ha : Advances st st' es) {place : Nat}
    (hplace : place ≠ st.place) {p : Program α} {h : List Exchange} {slot : Slot α}
    (ht : slot.Tells st place p h) : slot.Tells st' place p h where
  course := ht.course
  events := by
    rw [ha.elsewhere place hplace]
    exact ht.events
  halted next hx := ha.cancelled (ht.halted next hx)
  working := ht.working

theorem awaits_ofProgram (working : Bool) (p : Program α) : (ofProgram working p).Awaits [] := by
  cases p <;> rfl

theorem isWorking_ofProgram {working : Bool} {p : Program α}
    (h : (ofProgram working p).value? = none) : (ofProgram working p).isWorking = working := by
  cases p with
  | pure a => cases h
  | perform r k => rfl

theorem isWorking_ofProgram_le {working : Bool} {p : Program α}
    (h : (ofProgram working p).isWorking = true) : working = true := by
  cases p with
  | pure a => cases h
  | perform r k => exact h

end Slot

namespace Crew

variable {start : Bool} {c : Crew σ α} {w : World σ} {i : Nat} {p : Program α}

theorem kept_stateOf (h : Kept start c.state) (i : Nat) : Kept start (c.stateOf i) :=
  ⟨h.lawful, h.flag, h.fresh⟩

/-- A slot has gone on. -/
structure Moves (start : Bool) (c : Crew σ α) (i : Nat) (p : Program α) (slot : Slot α)
    (h : List Exchange) (next : Slot α) (st : State σ) : Prop where
  kept : Kept start st
  advances : ∃ es, Advances (c.stateOf i) st es
  /-- Its program has gone through one more exchange, or has asked for it. -/
  history : ∃ h', (h' = h ∨ ∃ x, h' = h ++ [x]) ∧ next.Tells st i p h'
  /-- It got a place among the workers only if there was one. -/
  placed : next.isWorking = true → slot.isWorking = true ∨ c.hasPlace = true
  unfinished : slot.value? = none

/-- The exchange that a slot was at is completed. -/
theorem tells_answered {st st' : State σ} {slot : Slot α} {h : List Exchange} {r : Request}
    {k : Answer r → Program α} {a : Answer r} {gs fs es : List Event} {working : Bool}
    (hp : p.IsPlaced) (ht : slot.Tells st i p h) (hrest : slot.rest = .perform r k)
    (hunfinished : slot.value? = none) (hi : st.place = i)
    (hevents : eventsAt i st.notes = gs ++ fs) (hrecounts : Recounts h gs) (ha : Advances st st' es)
    (hleaves : Exchange.Leaves ⟨r, a⟩ (fs ++ es))
    (htoken : ∀ next, (⟨r, a⟩ : Exchange) = ⟨.token next, true⟩ → st'.cancelled = true)
    (hworking : slot.isWorking = true ∨ r = .permit → working = true) :
    (Slot.ofProgram working (k a)).Tells st' i p (h ++ [⟨r, a⟩]) where
  course := by
    rw [Slot.rest_ofProgram]
    exact (hrest ▸ ht.course).snoc a
  events := by
    refine ⟨gs ++ (fs ++ es), [], ?_, hrecounts.append (.single hleaves), Slot.awaits_ofProgram _ _⟩
    subst hi
    rw [ha.here, hevents, List.append_nil, List.append_assoc]
  halted next hx := by
    rcases List.mem_append.1 hx with hx | hx
    · exact ha.cancelled (ht.halted next hx)
    · exact htoken next (List.mem_singleton.1 hx).symm
  working hvalue := by
    have hw : working = true := by
      by_cases hh : h = []
      · exact hworking (.inr ((hp.permit_iff (hrest ▸ ht.course)).2 hh))
      · exact hworking (.inl ((ht.working hunfinished).2 hh))
    rw [Slot.isWorking_ofProgram hvalue, hw]
    simp

theorem move_spec (w : World σ) (hp : p.IsPlaced) (hkept : Kept start c.state) {slot : Slot α}
    (hget : c.slots[i]? = some slot) (hmay : c.mayMove slot = true) {h : List Exchange}
    (ht : slot.Tells c.state i p h) :
    ∃ next st, c.move w i = c.put i next st ∧ Moves start c i p slot h next st := by
  have hk := kept_stateOf hkept i
  have hti : slot.Tells (c.stateOf i) i p h := ⟨ht.course, ht.events, ht.halted, ht.working⟩
  obtain ⟨gs, fs, hevents, hrecounts, hawaits⟩ := hti.events
  cases slot with
  | asking working r k =>
    obtain rfl : fs = [] := hawaits
    obtain ⟨es, hadvances, hkept', hfits⟩ := begin_spec w hk (hp.heeds ht.course)
    simp only [move, hget]
    generalize hbegin : begin w (c.stateOf i) r = b at hadvances hkept' hfits
    obtain ⟨b, st'⟩ := b
    cases b with
    | done a =>
      refine ⟨_, _, rfl, hkept', ⟨es, hadvances⟩, ⟨h ++ [⟨r, a⟩], .inr ⟨_, rfl⟩, ?_⟩,
        fun hworking => .inl (Slot.isWorking_ofProgram_le hworking), rfl⟩
      refine tells_answered hp hti rfl rfl rfl hevents hrecounts hadvances hfits.2 ?_ ?_
      · intro next hx
        cases hx
        exact begin_token w hbegin
      · rintro (hworking | hr)
        · exact hworking
        · exact absurd hr hfits.1
    | flying f =>
      refine ⟨_, _, rfl, hkept', ⟨es, hadvances⟩, ⟨h, .inl rfl, ht.course, ?_, ?_, ht.working⟩,
        fun hworking => .inl hworking, rfl⟩
      · rw [List.append_nil] at hevents
        exact ⟨gs, es, by rw [← hevents]; exact hadvances.here, hrecounts, hfits⟩
      · exact fun next hx => hadvances.cancelled (hti.halted next hx)
  | flying working r f k =>
    have hfits : f.Fits fs := hawaits
    obtain ⟨es, hadvances, hkept', hleaves⟩ := finish_spec w hfits hk
    simp only [move, hget]
    refine ⟨_, _, rfl, hkept', ⟨es, hadvances⟩,
      ⟨h ++ [⟨r, (finish w (c.stateOf i) f).1⟩], .inr ⟨_, rfl⟩, ?_⟩, fun hworking => ?_, rfl⟩
    · refine tells_answered hp hti rfl rfl rfl hevents hrecounts hadvances hleaves ?_ ?_
      · intro next hx
        exact absurd (congrArg Exchange.request hx) (hfits.waits next)
      · rintro (hworking | hr)
        · exact Bool.or_eq_true_iff.2 (.inl hworking)
        · exact Bool.or_eq_true_iff.2 (.inr (hfits.queued.2 hr))
    · rcases Bool.or_eq_true_iff.1 (Slot.isWorking_ofProgram_le hworking) with hw | hq
      · exact .inl hw
      · simp only [mayMove, hq, Bool.not_true, Bool.false_or] at hmay
        exact .inr hmay
  | done a => cases hmay

/-- The record agrees with every slot; no more programs work than may, and those that are done are
finished once. -/
structure Sound (start : Bool) (ps : List (Program α)) (c : Crew σ α) : Prop where
  kept : Kept start c.state
  length : c.slots.length = ps.length
  tells : ∀ i p (slot : Slot α), ps[i]? = some p → c.slots[i]? = some slot →
    ∃ h, slot.Tells c.state i p h
  elsewhere : ∀ i, ps.length ≤ i → eventsAt i c.state.notes = []
  places : (c.finished.map Prod.fst).Nodup
  finished : ∀ i a, (i, a) ∈ c.finished ↔ c.slots[i]? = some (.done a)
  limit : c.slots.countP Slot.isWorking ≤ c.workers

variable {ps : List (Program α)}

theorem value?_eq_some {slot : Slot α} {a : α} : slot.value? = some a ↔ slot = .done a := by
  cases slot <;> simp [Slot.value?]

/-- A slot that goes on keeps its place among the workers or leaves it; it gets one if there is
one. -/
theorem countP_set_isWorking_le {slot next : Slot α}
    (hlimit : c.slots.countP Slot.isWorking ≤ c.workers) (hget : c.slots[i]? = some slot)
    (hplaced : next.isWorking = true → slot.isWorking = true ∨ c.hasPlace = true) :
    (c.slots.set i next).countP Slot.isWorking ≤ c.workers := by
  obtain ⟨hi, rfl⟩ := List.getElem?_eq_some_iff.1 hget
  rw [List.countP_set hi]
  by_cases hnext : next.isWorking = true
  · rcases hplaced hnext with hslot | hplace
    · have hpos : 0 < c.slots.countP Slot.isWorking :=
        List.countP_pos_iff.2 ⟨_, List.getElem_mem hi, hslot⟩
      simp only [hnext, hslot, if_true]
      omega
    · have hroom : c.slots.countP Slot.isWorking < c.workers := of_decide_eq_true hplace
      simp only [hnext, if_true]
      omega
  · simp only [hnext, Bool.false_eq_true, if_false]
    omega

theorem mem_finished_put {slot next : Slot α} {st : State σ} (hget : c.slots[i]? = some slot)
    (hunfinished : slot.value? = none) (hfinished : ∀ j a, (j, a) ∈ c.finished ↔
      c.slots[j]? = some (.done a)) (j : Nat) (a : α) :
    (j, a) ∈ (c.put i next st).finished ↔ (c.put i next st).slots[j]? = some (.done a) := by
  obtain ⟨hi, rfl⟩ := List.getElem?_eq_some_iff.1 hget
  simp only [put, List.mem_append, hfinished, Option.mem_toList, Option.map_eq_some_iff,
    Prod.mk.injEq, value?_eq_some]
  by_cases hij : i = j
  · subst hij
    rw [List.getElem?_set_self hi, List.getElem?_eq_getElem hi]
    constructor
    · rintro (hdone | ⟨b, rfl, -, rfl⟩)
      · rw [Option.some.injEq] at hdone
        rw [hdone] at hunfinished
        cases hunfinished
      · rfl
    · rintro hnext
      exact .inr ⟨a, Option.some.inj hnext, rfl, rfl⟩
  · rw [List.getElem?_set_ne hij]
    constructor
    · rintro (hdone | ⟨b, -, rfl, -⟩)
      · exact hdone
      · exact absurd rfl hij
    · exact .inl

theorem Sound.put (hs : Sound start ps c) (hi : ps[i]? = some p) {slot next : Slot α}
    {h : List Exchange} {st : State σ} (hget : c.slots[i]? = some slot)
    (hm : Moves start c i p slot h next st) : Sound start ps (c.put i next st) where
  kept := hm.kept
  length := by simp only [Crew.put, List.length_set, hs.length]
  tells j q other hj hother := by
    obtain ⟨es, hadvances⟩ := hm.advances
    by_cases hij : i = j
    · subst hij
      obtain ⟨h', -, ht⟩ := hm.history
      obtain ⟨hlt, -⟩ := List.getElem?_eq_some_iff.1 hget
      simp only [Crew.put, List.getElem?_set_self hlt, Option.some.injEq] at hother
      obtain rfl := Option.some.inj (hi.symm.trans hj)
      exact ⟨h', hother ▸ ht⟩
    · simp only [Crew.put, List.getElem?_set_ne hij] at hother
      obtain ⟨h', ht⟩ := hs.tells j q other hj hother
      exact ⟨h', Slot.Tells.frame hadvances (Ne.symm hij)
        ⟨ht.course, ht.events, ht.halted, ht.working⟩⟩
  elsewhere j hj := by
    obtain ⟨es, hadvances⟩ := hm.advances
    obtain ⟨hlt, -⟩ := List.getElem?_eq_some_iff.1 hi
    rw [Crew.put, hadvances.elsewhere j (Nat.ne_of_gt (Nat.lt_of_lt_of_le hlt hj))]
    exact hs.elsewhere j hj
  places := by
    have hnew (a : α) : (i, a) ∉ c.finished := fun ha => by
      rw [hs.finished, hget, Option.some.injEq] at ha
      rw [ha] at hm
      cases hm.unfinished
    simp only [Crew.put, List.map_append]
    cases hv : next.value? with
    | none => simpa using hs.places
    | some a =>
      simp only [Option.map_some, Option.toList_some, List.map_cons, List.map_nil]
      refine List.nodup_append.2 ⟨hs.places, by simp, ?_⟩
      rintro j hj k hk rfl
      obtain rfl := List.mem_singleton.1 hk
      obtain ⟨⟨k, b⟩, hb, rfl⟩ := List.mem_map.1 hj
      exact hnew b hb
  finished := mem_finished_put hget hm.unfinished hs.finished
  limit := countP_set_isWorking_le hs.limit hget hm.placed

/-- What comes of a crew when slots that may go on do so, one after the other. Nothing is said of
their moments, so an answer may be noticed late. -/
inductive Reaches (w : World σ) : Crew σ α → Crew σ α → Prop where
  | refl (c : Crew σ α) : Reaches w c c
  | step {c c' : Crew σ α} {i : Nat} :
      i ∈ c.enabled → Reaches w (c.move w i) c' → Reaches w c c'

/-- What holds at the start and is kept by every move holds afterwards. -/
theorem Reaches.induction {I : Crew σ α → Prop}
    (hmove : ∀ c i, I c → i ∈ c.enabled → I (c.move w i)) {c c' : Crew σ α} (h : Reaches w c c')
    (hc : I c) : I c' := by
  induction h with
  | refl c => exact hc
  | step hi _ ih => exact ih (hmove _ _ hc hi)

/-- A run is made of moves. -/
theorem reaches_run (w : World σ) (schedule : Schedule σ α) (c : Crew σ α) :
    Reaches w c (c.run w schedule) := by
  fun_induction run w schedule c with
  | case1 c hpick => exact .refl c
  | case2 c i hpick ih => exact .step (pick_mem hpick) ih

/-- A run goes on until nothing moves any more. -/
theorem enabled_run (w : World σ) (schedule : Schedule σ α) (c : Crew σ α) :
    (c.run w schedule).enabled = [] := by
  fun_induction run w schedule c with
  | case1 c hpick =>
    unfold pick at hpick
    split at hpick
    · cases hpick
    · exact due_eq_nil_iff.1 (List.head?_eq_none_iff.1 hpick)
  | case2 c i hpick ih => exact ih

theorem Sound.exists_program (hs : Sound start ps c) {slot : Slot α}
    (hget : c.slots[i]? = some slot) : ∃ p h, ps[i]? = some p ∧ slot.Tells c.state i p h := by
  obtain ⟨hlt, -⟩ := List.getElem?_eq_some_iff.1 hget
  have hp := List.getElem?_eq_getElem (hs.length ▸ hlt)
  obtain ⟨h, ht⟩ := hs.tells i _ slot hp hget
  exact ⟨_, h, hp, ht⟩

theorem Sound.exists_moves (w : World σ) (hps : ∀ p ∈ ps, p.IsPlaced) (hs : Sound start ps c)
    (hi : i ∈ c.enabled) :
    ∃ p slot h next st, ps[i]? = some p ∧ c.slots[i]? = some slot ∧ slot.Tells c.state i p h ∧
      c.move w i = c.put i next st ∧ Moves start c i p slot h next st := by
  obtain ⟨slot, hget, hmay⟩ := mem_enabled_iff.1 hi
  obtain ⟨p, h, hp, ht⟩ := hs.exists_program hget
  obtain ⟨next, st, heq, hm⟩ :=
    move_spec w (hps p (List.mem_of_getElem? hp)) hs.kept hget hmay ht
  exact ⟨p, slot, h, next, st, hp, hget, ht, heq, hm⟩

theorem Sound.move (hps : ∀ p ∈ ps, p.IsPlaced) (hs : Sound start ps c) (hi : i ∈ c.enabled) :
    Sound start ps (c.move w i) := by
  obtain ⟨p, slot, h, next, st, hp, hget, -, heq, hm⟩ := hs.exists_moves w hps hi
  rw [heq]
  exact hs.put hp hget hm

theorem workers_move (w : World σ) (c : Crew σ α) (i : Nat) : (c.move w i).workers = c.workers := by
  unfold Crew.move
  split
  · split <;> rfl
  · rfl
  · rfl

/-- Who cannot move does not work: who works does not wait for a place. -/
theorem Sound.idle_of_stuck (hps : ∀ p ∈ ps, p.IsPlaced) (hs : Sound start ps c) {slot : Slot α}
    (hget : c.slots[i]? = some slot) (hstuck : c.mayMove slot = false) :
    slot.isWorking = false := by
  obtain ⟨p, h, hp, ht⟩ := hs.exists_program hget
  refine Bool.eq_false_iff.2 ?_
  intro hworking
  cases slot with
  | asking working r k => cases hstuck
  | flying working r f k =>
    simp only [mayMove, Bool.or_eq_false_iff, Bool.not_eq_false'] at hstuck
    obtain ⟨_, fs, -, -, hawaits⟩ := ht.events
    have hfits : f.Fits fs := hawaits
    have hpermit : r = .permit := hfits.queued.1 hstuck.1
    exact (ht.working rfl).1 hworking
      (((hps p (List.mem_of_getElem? hp)).permit_iff ht.course).1 hpermit)
  | done a => cases hworking

/-- A program that has not got its place waits for somebody who works: when nothing moves any more,
everybody is done. -/
theorem Sound.done_of_stuck (hps : ∀ p ∈ ps, p.IsPlaced) (hs : Sound start ps c)
    (hworkers : 0 < c.workers) (hstuck : c.enabled = []) {slot : Slot α}
    (hget : c.slots[i]? = some slot) : ∃ a, slot = .done a := by
  have hnot {j : Nat} {other : Slot α} (hother : c.slots[j]? = some other) :
      c.mayMove other = false := by
    refine Bool.eq_false_iff.2 ?_
    intro hmay
    have hj := mem_enabled_iff.2 ⟨other, hother, hmay⟩
    rw [hstuck] at hj
    cases hj
  have hidle : c.slots.countP Slot.isWorking = 0 := by
    refine List.countP_eq_zero.2 ?_
    intro other hother
    obtain ⟨j, hj⟩ := List.getElem?_of_mem hother
    simp [hs.idle_of_stuck hps hj (hnot hj)]
  have hplace : c.hasPlace = true := decide_eq_true (hidle ▸ hworkers)
  cases slot with
  | asking working r k => cases hnot hget
  | flying working r f k =>
    have hmay := hnot hget
    simp [mayMove, hplace] at hmay
  | done a => exact ⟨a, rfl⟩

theorem sound_start (hps : ∀ p ∈ ps, p.IsPlaced) {st : State σ} (hk : Kept start st)
    (hnotes : st.notes = []) (workers : Nat) : Sound start ps (Crew.start workers ps st) := by
  have hslot {i : Nat} {slot : Slot α} (hget : (ps.map (Slot.ofProgram false))[i]? = some slot) :
      ∃ p, ps[i]? = some p ∧ p.IsPlaced ∧ slot = .ofProgram false p := by
    rw [List.getElem?_map, Option.map_eq_some_iff] at hget
    obtain ⟨p, hp, rfl⟩ := hget
    exact ⟨p, hp, hps p (List.mem_of_getElem? hp), rfl⟩
  have hnone {p : Program α} (hp : p.IsPlaced) : (Slot.ofProgram false p).value? = none ∧
      (Slot.ofProgram false p).isWorking = false := by
    obtain ⟨k, rfl, -⟩ := hp
    exact ⟨rfl, rfl⟩
  have hfinished : (Crew.start workers ps st).finished = [] := by
    refine List.filterMap_eq_nil_iff.2 ?_
    intro q hq
    obtain ⟨p, j⟩ := q
    rw [(hnone (hps p (List.fst_mem_of_mem_zipIdx hq))).1]
    rfl
  refine ⟨hk, List.length_map _, ?_, ?_, ?_, ?_, ?_⟩
  · intro i p slot hp hget
    obtain ⟨q, hq, hplaced, rfl⟩ := hslot hget
    obtain rfl := Option.some.inj (hp.symm.trans hq)
    refine ⟨[], ?_, ⟨[], [], ?_, .nil, Slot.awaits_ofProgram _ _⟩, (fun _ hx => nomatch hx),
      fun _ => ?_⟩
    · rw [Slot.rest_ofProgram]
      exact .refl p
    · simp [Crew.start, hnotes]
    · simp [(hnone hplaced).2]
  · intro i _
    simp [Crew.start, hnotes]
  · simp [hfinished]
  · intro i a
    simp only [hfinished, List.not_mem_nil, false_iff]
    intro hget
    obtain ⟨q, -, hplaced, heq⟩ := hslot hget
    have hv := (hnone hplaced).1
    rw [← heq] at hv
    cases hv
  · refine Nat.le_trans (Nat.le_of_eq (List.countP_eq_zero.2 fun slot hmem => ?_)) (Nat.zero_le _)
    obtain ⟨i, hi⟩ := List.getElem?_of_mem hmem
    obtain ⟨q, -, hplaced, rfl⟩ := hslot hi
    simp [(hnone hplaced).2]

end Crew
end Crew

end Run
end Walkthrough
