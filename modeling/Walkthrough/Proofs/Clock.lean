import Walkthrough.Proofs.Laps

/-!
# Walkthrough.Proofs.Clock

The clock of a run that does one thing after the other.

* `Ages`: time has gone by between two states, but hardly any since the run is cancelled.
* `served`: what one request does to the clock, in any world whose store takes no time.
* `lasts_run`, `late_run`, `lingers_run`: the timings of a program, of one that begins when the run
  is cancelled, and of one during which it is cancelled.
-/

namespace Walkthrough
namespace Run

open Browser

/-- The store takes no time. -/
def World.StoresAtOnce {σ : Type} (w : World σ) : Prop :=
  ∀ key bytes world, (w.storing key bytes world).1.delay = 0

/-- How long a request is still waited for once the run is cancelled. -/
def Request.slack : Request → Nat
  | .shielded _ _ limit => limit.ceilMillis
  | _ => 0

section Clock

variable {σ : Type} {st st' st'' : State σ} {n : Nat}

/-! ## Clocks of states -/

@[simp] theorem now_note? (st : State σ) (e? : Option Event) : (st.note? e?).now = st.now := by
  cases e? <;> rfl

@[simp] theorem now_stop (st : State σ) : st.stop.now = st.now := by
  unfold State.stop
  split <;> rfl

@[simp] theorem now_stopIf (st : State σ) (stops : Bool) : (st.stopIf stops).now = st.now := by
  cases stops with
  | false => rfl
  | true => exact now_stop st

@[simp] theorem now_heed (w : World σ) (st : State σ) (r : Request) :
    (st.heed w r).now = st.now :=
  now_stopIf _ _

@[simp] theorem now_open (w : World σ) (st : State σ) : (st.open w).2.now = st.now :=
  now_stopIf _ _

@[simp] theorem now_call (w : World σ) (st : State σ) (session : Nat) (c : Call) :
    (st.call w session c).2.now = st.now :=
  now_stopIf _ _

@[simp] theorem now_store (w : World σ) (st : State σ) (key : Capture.Key) (bytes : ByteArray) :
    (st.store w key bytes).2.now = st.now :=
  now_stopIf _ _

@[simp] theorem now_drop (st : State σ) (l : Landing) : (drop st l).now = st.now := now_note? _ _

@[simp] theorem now_land (w : World σ) (st : State σ) (l : Landing) :
    (land w st l).now = st.now := by
  have hsettle : (settle w (st.note? l.event?) l).now = (st.note? l.event?).now := by
    unfold settle
    split <;> rfl
  exact hsettle.trans (now_note? _ _)

@[simp] theorem now_advance (st : State σ) (moment : Nat) :
    (st.advance moment).now = max st.now moment := by
  unfold State.advance
  split
  · split
    · next hle => simp only [State.pass, now_stop]; omega
    · rfl
  · rfl

@[simp] theorem cancelled_stop (st : State σ) : st.stop.cancelled = true := by
  unfold State.stop
  split
  · assumption
  · rfl

theorem mem_notes_stop {c : Nat} (h : .cancelled c ∈ st.stop.notes) :
    .cancelled c ∈ st.notes ∨ c = st.now := by
  unfold State.stop at h
  split at h
  · exact .inl h
  · rcases List.mem_cons.1 h with h | h
    · exact .inr (Note.cancelled.inj h)
    · exact .inl h

/-! ## Time that goes by -/

/-- Time has gone by; once the run is cancelled, no more than the slack. -/
structure Ages (slack : Nat) (st st' : State σ) : Prop where
  now : st.now ≤ st'.now
  late : st.cancelled = true → st'.cancelled = true ∧ st'.now ≤ st.now + slack
  stops : ∀ c, .cancelled c ∈ st'.notes → .cancelled c ∈ st.notes ∨
    st'.cancelled = true ∧ st.now ≤ c ∧ c ≤ st'.now ∧ st'.now ≤ c + slack

namespace Ages

theorem of_eq (hnow : st'.now = st.now) (hcancelled : st'.cancelled = st.cancelled)
    (hnotes : ∀ c, .cancelled c ∈ st'.notes → .cancelled c ∈ st.notes) : Ages 0 st st' where
  now := Nat.le_of_eq hnow.symm
  late hc := ⟨hcancelled.trans hc, Nat.le_of_eq hnow⟩
  stops c hc := .inl (hnotes c hc)

theorem refl (st : State σ) : Ages 0 st st := of_eq rfl rfl fun _ => id

/-- The slacks of two spans of time add up. -/
theorem trans_add {m : Nat} (h : Ages m st st') (g : Ages n st' st'') : Ages (m + n) st st'' where
  now := Nat.le_trans h.now g.now
  late hc := by
    obtain ⟨hc', hle⟩ := h.late hc
    obtain ⟨hc'', hle'⟩ := g.late hc'
    exact ⟨hc'', by omega⟩
  stops c hc := by
    rcases g.stops c hc with hc | ⟨hc, hlo, hhi, hslack⟩
    · rcases h.stops c hc with hc | ⟨hc, hlo, hhi, hslack⟩
      · exact .inl hc
      · obtain ⟨hc', hle⟩ := g.late hc
        exact .inr ⟨hc', hlo, Nat.le_trans hhi g.now, by omega⟩
    · exact .inr ⟨hc, Nat.le_trans h.now hlo, hhi, by omega⟩

theorem trans (h : Ages 0 st st') (g : Ages n st' st'') : Ages n st st'' := by
  have hadd := h.trans_add g
  rwa [Nat.zero_add] at hadd

theorem mono {m : Nat} (h : Ages m st st') (hle : m ≤ n) : Ages n st st' where
  now := h.now
  late hc := ⟨(h.late hc).1, Nat.le_trans (h.late hc).2 (Nat.add_le_add_left hle _)⟩
  stops c hc := (h.stops c hc).imp_right fun ⟨hc, hlo, hhi, hslack⟩ =>
    ⟨hc, hlo, hhi, Nat.le_trans hslack (Nat.add_le_add_left hle c)⟩

theorem mem_notes_note {e : Event} {c : Nat} (h : .cancelled c ∈ (st.note e).notes) :
    .cancelled c ∈ st.notes :=
  (List.mem_cons.1 h).resolve_left nofun

theorem note (st : State σ) (e : Event) : Ages 0 st (st.note e) :=
  of_eq rfl rfl fun _ => mem_notes_note

theorem note? (st : State σ) (e? : Option Event) : Ages 0 st (st.note? e?) := by
  cases e? with
  | none => exact .refl st
  | some e => exact .note st e

theorem stop (st : State σ) : Ages 0 st st.stop where
  now := Nat.le_of_eq (now_stop st).symm
  late _ := ⟨cancelled_stop st, Nat.le_of_eq (now_stop st)⟩
  stops c hc := by
    rw [now_stop]
    rcases mem_notes_stop hc with hc | rfl
    · exact .inl hc
    · exact .inr ⟨cancelled_stop st, Nat.le_refl _, Nat.le_refl _, Nat.le_refl _⟩

theorem stopIf (st : State σ) (stops : Bool) : Ages 0 st (st.stopIf stops) := by
  cases stops with
  | false => exact .refl st
  | true => exact .stop st

theorem heed (w : World σ) (st : State σ) (r : Request) : Ages 0 st (st.heed w r) :=
  have h : Ages 0 st { st with world := (w.interrupts r st.world).2 } := of_eq rfl rfl fun _ => id
  h.trans (.stopIf _ _)

theorem «open» (w : World σ) (st : State σ) : Ages 0 st (st.open w).2 :=
  have h : Ages 0 st
      { st.note (.opening st.sessions) with
        world := (w.opening st.sessions st.world).2, sessions := st.sessions + 1 } :=
    of_eq rfl rfl fun _ => mem_notes_note
  h.trans (.stopIf _ _)

theorem call (w : World σ) (st : State σ) (session : Nat) (c : Call) :
    Ages 0 st (st.call w session c).2 :=
  have h : Ages 0 st
      { st.note (.called session c) with world := (w.reaction session c st.world).2 } :=
    of_eq rfl rfl fun _ => mem_notes_note
  h.trans (.stopIf _ _)

theorem store (w : World σ) (st : State σ) (key : Capture.Key) (bytes : ByteArray) :
    Ages 0 st (st.store w key bytes).2 :=
  have h : Ages 0 st { st with world := (w.storing key bytes st.world).2 } :=
    of_eq rfl rfl fun _ => id
  h.trans (.stopIf _ _)

theorem land (w : World σ) (st : State σ) (l : Landing) : Ages 0 st (land w st l) := by
  refine (note? st l.event?).trans ?_
  unfold Run.land settle
  split
  · exact of_eq rfl rfl fun _ => id
  · exact .refl _

/-- A run that is not cancelled may wait as long as it likes. -/
theorem pass (hc : st.cancelled = false) (moment : Nat) : Ages n st (st.pass moment) where
  now := Nat.le_max_left _ _
  late h := by rw [hc] at h; cases h
  stops c h := .inl h

theorem advance {moment : Nat} (h : moment ≤ st.now + n) : Ages n st (st.advance moment) := by
  have hpass : Ages n st (st.pass moment) :=
    ⟨Nat.le_max_left _ _, fun hc => ⟨hc, Nat.max_le.2 ⟨Nat.le_add_right _ _, h⟩⟩, fun _ => .inl⟩
  unfold State.advance
  split
  · next c' _ =>
    split
    · next hle =>
      have hnow : ((st.pass c').stop.pass moment).now = max st.now moment := by
        simp only [State.pass, now_stop]
        omega
      refine ⟨?_, fun _ => ⟨cancelled_stop _, ?_⟩, fun c hc => ?_⟩
      · rw [hnow]
        exact hpass.now
      · rw [hnow]
        exact Nat.max_le.2 ⟨Nat.le_add_right _ _, h⟩
      · rw [hnow]
        rcases mem_notes_stop hc with hc | rfl
        · exact .inl hc
        · refine .inr ⟨cancelled_stop _, ?_⟩
          simp only [State.pass]
          omega
    · exact hpass
  · exact hpass

/-- A flight is cut short at once. -/
theorem cut {r : Request} {f : Flight r} {c : Nat} (h : f.cutAt? st = some c) :
    Ages 0 st (st.advance c).stop ∧ st.now ≤ c ∧ c ≤ max f.due st.now := by
  unfold Flight.cutAt? at h
  split at h
  · obtain rfl := Option.some.inj h
    exact ⟨(advance (Nat.le_refl _)).trans (.stop _), Nat.le_refl _, Nat.le_max_right _ _⟩
  · next hc =>
    cases hat : st.cancelAt with
    | none => simp [hat] at h
    | some c' =>
      simp only [hat] at h
      split at h
      · next hle =>
        obtain rfl := Option.some.inj h
        have hnow : st.now ≤ max c' st.now := Nat.le_max_right _ _
        refine ⟨?_, hnow, by omega⟩
        -- The clock stands at the moment of cancellation before and after the run is cancelled.
        have hadvance : (st.advance (max c' st.now)).stop =
            { st with
              now := max c' st.now, cancelled := true
              notes := .cancelled (max c' st.now) :: st.notes } := by
          have hle' : c' ≤ max st.now (max c' st.now) := by omega
          have hmax : max st.now c' = max c' st.now := Nat.max_comm _ _
          simp only [State.advance, State.pass, State.stop, hat, hc, hle', hmax, if_true, if_false,
            Bool.false_eq_true, Nat.max_self]
        rw [hadvance]
        refine ⟨hnow, fun h => absurd h hc, fun c hmem => ?_⟩
        rcases List.mem_cons.1 hmem with hmem | hmem
        · obtain rfl := Note.cancelled.inj hmem
          exact .inr ⟨rfl, hnow, Nat.le_refl _, Nat.le_refl _⟩
        · exact .inl hmem
      · cases h

/-- A flight that could be cut short and is not ends while the run is not cancelled. -/
theorem uncut {r : Request} {f : Flight r} (h : f.cutAt? st = none) :
    Ages n st (st.advance f.due) := by
  unfold Flight.cutAt? at h
  split at h
  · cases h
  · next hc =>
    unfold State.advance
    cases hat : st.cancelAt with
    | none => exact .pass (Bool.eq_false_iff.2 hc) _
    | some c =>
      simp only [hat, ite_eq_right_iff, reduceCtorEq, imp_false] at h
      rw [Nat.max_comm] at h
      simp only [h, if_false]
      exact .pass (Bool.eq_false_iff.2 hc) _

end Ages

/-! ## Flights -/

/-- A flight that started at a moment comes in time. -/
structure Flight.IsTimely {r : Request} (f : Flight r) (since : Nat) : Prop where
  due : since ≤ f.due
  lands : Takes r (f.answer f.due) (f.due - since)
  cut : ∀ answer t, f.cutShort = some answer → since ≤ t → t ≤ f.due → Takes r (answer t) (t - since)
  slack : f.cutShort = none → f.due ≤ since + r.slack

theorem isTimely_queueing (since : Nat) : (Flight.queueing since).IsTimely since :=
  ⟨Nat.le_refl _, trivial, nofun, fun _ => Nat.le_refl _⟩

theorem isTimely_opening (since session : Nat) (reaction : Reaction (Except Browser.Fault Unit)) :
    (Flight.opening since session reaction).IsTimely since :=
  ⟨Nat.le_add_right _ _, trivial, fun _ _ _ _ _ => trivial, nofun⟩

theorem isTimely_calling (since session : Nat) (c : Call) (limit : Duration)
    (reaction : Reaction (Except Browser.Fault c.Result)) :
    (Flight.calling since session c limit reaction).IsTimely since where
  due := Nat.le_add_right _ _
  lands := ⟨rfl, by simp only [Flight.calling]; omega⟩
  cut answer t hcut hlo hhi := by
    cases hcut
    simp only [Flight.calling] at hhi
    exact ⟨rfl, by omega⟩
  slack := nofun

theorem isTimely_shielding (since session : Nat) (c : Call) (limit : Duration)
    (reaction : Reaction (Except Browser.Fault c.Result)) :
    (Flight.shielding since session c limit reaction).IsTimely since := by
  have hdue : since + min reaction.delay limit.ceilMillis ≤ since + limit.ceilMillis :=
    Nat.add_le_add_left (Nat.min_le_right _ _) since
  exact ⟨Nat.le_add_right _ _, Nat.sub_le_iff_le_add'.2 hdue, nofun, fun _ => hdue⟩

theorem isTimely_resting (since : Nat) (span : Duration) :
    (Flight.resting since span).IsTimely since where
  due := Nat.le_add_right _ _
  lands := by
    refine ⟨by simp only [Flight.resting]; omega, fun late hlate => ?_⟩
    obtain rfl := Option.some.inj hlate
    simp only [Flight.resting]
    omega
  cut answer t hcut hlo hhi := by
    cases hcut
    simp only [Flight.resting] at hhi
    exact ⟨by omega, nofun⟩
  slack := nofun

theorem isTimely_storing {reaction : Reaction (Option String)} (h : reaction.delay = 0)
    (since : Nat) (key : Capture.Key) (bytes : ByteArray) :
    (Flight.storing since key bytes reaction).IsTimely since := by
  have hdue : since + reaction.delay = since := by rw [h, Nat.add_zero]
  exact ⟨Nat.le_add_right _ _, Nat.sub_eq_zero_of_le (Nat.le_of_eq hdue), nofun,
    fun _ => Nat.le_of_eq hdue⟩

/-- A request has been served in time. -/
structure Served {r : Request} (st : State σ) (a : Answer r × State σ) : Prop where
  ages : Ages r.slack st a.2
  takes : Takes r a.1 (a.2.now - st.now)

variable {r : Request}

theorem Served.of_ages {a : Answer r × State σ} (h : Ages 0 st st') (hnow : st'.now = st.now)
    (g : Served st' a) : Served st a :=
  ⟨h.trans g.ages, hnow ▸ g.takes⟩

/-- What is done at once. -/
theorem Served.of_eq {a : Answer r} (h : Ages 0 st st') (hnow : st'.now = st.now)
    (ha : Takes r a 0) : Served st (a, st') := by
  refine ⟨h.mono (Nat.zero_le _), ?_⟩
  rw [hnow, Nat.sub_self]
  exact ha

theorem Served.land (w : World σ) {f : Flight r} (hf : f.IsTimely st.now)
    (h : Ages r.slack st (st.advance f.due)) :
    Served st (f.answer (st.advance f.due).now, Run.land w (st.advance f.due) f.landing) := by
  refine ⟨h.trans_add (.land w _ f.landing), ?_⟩
  rw [now_land, now_advance, Nat.max_eq_right hf.due]
  exact hf.lands

theorem served_finish (w : World σ) {f : Flight r} (hf : f.IsTimely st.now) :
    Served st (finish w st f) := by
  unfold finish
  split
  · next answer c hcut hat =>
    obtain ⟨hages, hlo, hhi⟩ := Ages.cut hat
    have hdue : max f.due st.now = f.due := Nat.max_eq_left hf.due
    refine ⟨(hages.trans (.note? _ _)).mono (Nat.zero_le _), ?_⟩
    rw [now_drop, now_stop, now_advance, Nat.max_eq_right hlo]
    exact hf.cut answer c hcut hlo (hdue ▸ hhi)
  · next hnot =>
    refine .land w hf ?_
    cases hcut : f.cutShort with
    | none => exact .advance (hf.slack hcut)
    | some answer =>
      refine .uncut ?_
      cases hat : f.cutAt? st with
      | none => rfl
      | some c => exact (hnot answer c hcut hat).elim

/-- Wait for the answer to a request that has begun. -/
def await (w : World σ) : Begun r × State σ → Answer r × State σ
  | (.done a, st) => (a, st)
  | (.flying f, st) => finish w st f

theorem respond_eq (w : World σ) (st : State σ) (r : Request) :
    respond w st r = await w (begin w st r) := rfl

theorem served_launch (w : World σ) {f : Flight r} (hf : f.IsTimely st.now) :
    Served st (await w (launch w st f)) := by
  unfold launch
  split
  · next hdue =>
    have heq : f.due = st.now := Nat.le_antisymm hdue hf.due
    refine .of_eq (.land w st f.landing) (now_land w st f.landing) ?_
    have hlands := hf.lands
    rw [heq, Nat.sub_self] at hlands
    exact hlands
  · split
    · next answer _ hcut =>
      refine .of_eq (.note? st _) (now_drop st f.landing) ?_
      have := hf.cut answer st.now hcut (Nat.le_refl _) hf.due
      rwa [Nat.sub_self] at this
    · exact served_finish w hf

/-- A request is served in time, unless the store is asked and takes some: one case for each kind of
request. -/
theorem served_unless (w : World σ) (st : State σ) (r : Request)
    (hw : (∃ key bytes, r = .store key bytes) → w.StoresAtOnce) :
    Served st (respond w st r) := by
  rw [respond_eq, begin]
  refine .of_ages (.heed w st r) (now_heed w st r) ?_
  generalize st.heed w r = st
  cases r with
  | token next =>
    unfold serve
    split
    · exact .of_eq (.refl st) rfl rfl
    · exact .of_eq (.note st _) rfl rfl
  | now => exact .of_eq (.refl st) rfl rfl
  | permit => exact served_finish w (isTimely_queueing st.now)
  | openSession =>
    unfold serve
    split
    · exact .of_eq (.refl st) rfl trivial
    · exact .of_ages (.open w st) (now_open w st) (served_launch w (isTimely_opening _ _ _))
  | call session c limit =>
    unfold serve
    split
    · exact .of_eq (.refl st) rfl ⟨rfl, Nat.zero_le _⟩
    · exact .of_ages (.call w st session c) (now_call w st session c)
        (served_launch w (isTimely_calling _ _ _ _ _))
  | shielded session c limit =>
    exact .of_ages (.call w st session c) (now_call w st session c)
      (served_launch w (isTimely_shielding _ _ _ _ _))
  | rest span =>
    unfold serve
    split
    · exact .of_eq (.refl st) rfl ⟨Nat.zero_le _, nofun⟩
    · exact served_launch w (isTimely_resting _ _)
  | store key bytes =>
    exact .of_ages (.store w st key bytes) (now_store w st key bytes)
      (served_launch w (isTimely_storing (hw ⟨key, bytes, rfl⟩ key bytes st.world) _ _ _))

theorem served (w : World σ) (hw : w.StoresAtOnce) (st : State σ) (r : Request) :
    Served st (respond w st r) :=
  served_unless w st r fun _ => hw

theorem late_respond (w : World σ) (hw : w.StoresAtOnce) (hc : st.cancelled = true)
    (r : Request) : Late r (respond w st r).1 ((respond w st r).2.now - st.now) := by
  have htakes := (served w hw st r).takes
  have hheed : (st.heed w r).cancelled = true := ((Ages.heed w st r).late hc).1
  rw [respond_eq, begin] at htakes ⊢
  cases r with
  | token next =>
    rw [serve, if_pos hheed]
    exact ⟨rfl, by simp [await]⟩
  | openSession =>
    rw [serve, if_pos hheed]
    exact ⟨rfl, by simp [await]⟩
  | call session c limit =>
    rw [serve, if_pos hheed]
    exact ⟨rfl, by simp [await]⟩
  | rest span =>
    rw [serve, if_pos hheed]
    exact ⟨rfl, by simp [await]⟩
  | _ => exact htakes

/-! ## When sessions come -/

def Note.coming? : Note → Option (Nat × Nat)
  | .event moment _ (.opened session) => some (moment, session)
  | _ => none

/-- The sessions that came, and when, the latest first. -/
def comings (notes : List Note) : List (Nat × Nat) := notes.filterMap Note.coming?

theorem mem_comings {moment place session : Nat} {notes : List Note}
    (h : .event moment place (.opened session) ∈ notes) : (moment, session) ∈ comings notes :=
  List.mem_filterMap.2 ⟨_, h, rfl⟩

theorem exists_of_mem_comings {moment session : Nat} {notes : List Note}
    (h : (moment, session) ∈ comings notes) :
    ∃ place, .event moment place (.opened session) ∈ notes := by
  obtain ⟨n, hn, hcoming⟩ := List.mem_filterMap.1 h
  cases n with
  | cancelled m => cases hcoming
  | event m place e =>
    cases e with
    | opened s =>
      obtain ⟨rfl, rfl⟩ := Prod.mk.inj (Option.some.inj hcoming)
      exact ⟨place, hn⟩
    | _ => cases hcoming

@[simp] theorem comings_stop (st : State σ) : comings st.stop.notes = comings st.notes := by
  unfold State.stop
  split <;> rfl

@[simp] theorem comings_stopIf (st : State σ) (stops : Bool) :
    comings (st.stopIf stops).notes = comings st.notes := by
  cases stops with
  | false => rfl
  | true => exact comings_stop st

@[simp] theorem comings_heed (w : World σ) (st : State σ) (r : Request) :
    comings (st.heed w r).notes = comings st.notes :=
  comings_stopIf _ _

@[simp] theorem comings_advance (st : State σ) (moment : Nat) :
    comings (st.advance moment).notes = comings st.notes := by
  unfold State.advance
  split
  · split
    · exact comings_stop _
    · rfl
  · rfl

@[simp] theorem comings_drop (st : State σ) (l : Landing) :
    comings (drop st l).notes = comings st.notes := by
  cases l <;> rfl

theorem comings_land (w : World σ) (st : State σ) (l : Landing) :
    comings (land w st l).notes = comings st.notes ∨
      ∃ s, l = .opened s true ∧ comings (land w st l).notes = (st.now, s) :: comings st.notes := by
  cases l with
  | opened s succeeded =>
    cases succeeded with
    | true => exact .inr ⟨s, rfl, rfl⟩
    | false => exact .inl rfl
  | ended s c succeeded => cases succeeded <;> exact .inl rfl
  | _ => exact .inl rfl

/-- Only an answer that lands brings a session, and at that moment. -/
theorem comings_finish (w : World σ) (st : State σ) (f : Flight r) :
    comings (finish w st f).2.notes = comings st.notes ∨
      ∃ s, f.landing = .opened s true ∧
        comings (finish w st f).2.notes = ((finish w st f).2.now, s) :: comings st.notes := by
  unfold finish
  split
  · exact .inl (by simp)
  · have hland := comings_land w (st.advance f.due) f.landing
    simp only [comings_advance] at hland
    rw [now_land]
    exact hland

theorem comings_launch (w : World σ) (st : State σ) (f : Flight r) :
    comings (await w (launch w st f)).2.notes = comings st.notes ∨
      ∃ s, f.landing = .opened s true ∧ comings (await w (launch w st f)).2.notes =
        ((await w (launch w st f)).2.now, s) :: comings st.notes := by
  unfold launch
  split
  · have hland := comings_land w st f.landing
    rw [← now_land w st f.landing] at hland
    exact hland
  · split
    · exact .inl (comings_drop st f.landing)
    · exact comings_finish w st f

theorem comings_respond (w : World σ) (st : State σ) (r : Request) :
    comings (respond w st r).2.notes = comings st.notes ∨ r = .openSession ∧
      ∃ s, comings (respond w st r).2.notes = ((respond w st r).2.now, s) :: comings st.notes := by
  rw [respond_eq, begin, ← comings_heed w st r]
  generalize st.heed w r = st
  -- Only a session that is waited for lands as one.
  have other {asked : State σ} {f : Flight r} (hasked : comings asked.notes = comings st.notes)
      (hf : ∀ s, f.landing ≠ .opened s true) :
      comings (await w (launch w asked f)).2.notes = comings st.notes := by
    rcases comings_launch w asked f with h | ⟨s, hs, -⟩
    · exact h.trans hasked
    · exact absurd hs (hf s)
  cases r with
  | token next =>
    unfold serve
    split
    · exact .inl rfl
    · exact .inl rfl
  | now => exact .inl rfl
  | permit =>
    rcases comings_finish w st (.queueing st.now) with h | ⟨s, hs, -⟩
    · exact .inl h
    · cases hs
  | openSession =>
    unfold serve
    split
    · exact .inl rfl
    · have hasked : comings (st.open w).2.notes = comings st.notes := comings_stopIf _ _
      rcases comings_launch w (st.open w).2
        (.opening (st.open w).2.now st.sessions (st.open w).1) with h | ⟨s, -, h⟩
      · exact .inl (h.trans hasked)
      · exact .inr ⟨rfl, s, h.trans (congrArg _ hasked)⟩
  | call session c limit =>
    unfold serve
    split
    · exact .inl rfl
    · exact .inl (other (comings_stopIf _ _) nofun)
  | shielded session c limit => exact .inl (other (comings_stopIf _ _) nofun)
  | rest span =>
    unfold serve
    split
    · exact .inl rfl
    · exact .inl (other rfl nofun)
  | store key bytes => exact .inl (other (comings_stopIf _ _) nofun)

theorem comings_run {α : Type} (w : World σ) {p : Program α} (hp : p.Asks (· ≠ .openSession)) :
    comings (p.run w st).2.notes = comings st.notes := by
  induction p generalizing st with
  | pure a => rfl
  | perform r k ih =>
    rcases comings_respond w st r with h | ⟨hr, -⟩
    · exact (ih _ (hp.2 _)).trans h
    · exact absurd hr hp.1

/-- The only session that was waited for came when the wait was over. -/
theorem eq_now_of_opened {α : Type} (w : World σ) {p : Program α}
    (hp : p.Asks (· ≠ .openSession)) (hnone : comings st.notes = []) {moment place session : Nat}
    (h : .event moment place (.opened session) ∈
      (p.run w (respond w st .openSession).2).2.notes) :
    moment = (respond w st .openSession).2.now := by
  have hmem := mem_comings h
  rw [comings_run w hp] at hmem
  rcases comings_respond w st .openSession with hsame | ⟨-, s, hcame⟩
  · rw [hsame, hnone] at hmem
    cases hmem
  · rw [hcame, hnone, List.mem_singleton] at hmem
    exact (Prod.mk.inj hmem).1

/-! ## Programs -/

variable {α : Type} (w : World σ) (hw : w.StoresAtOnce) (p : Program α)
include hw

theorem lasts_run (st : State σ) :
    ∃ t, (p.run w st).2.now = st.now + t ∧ Lasts Takes p t (p.run w st).1 := by
  induction p generalizing st with
  | pure a => exact ⟨0, rfl, .refl _⟩
  | perform r k ih =>
    obtain ⟨hages, htakes⟩ := served w hw st r
    obtain ⟨t, hnow, ht⟩ := ih (respond w st r).1 (respond w st r).2
    refine ⟨((respond w st r).2.now - st.now) + t, ?_, .step htakes ht⟩
    rw [← Nat.add_assoc, Nat.add_sub_cancel' hages.now]
    exact hnow

theorem late_run {st : State σ} (hc : st.cancelled = true) :
    ∃ t, (p.run w st).2.now = st.now + t ∧ Lasts Late p t (p.run w st).1 := by
  induction p generalizing st with
  | pure a => exact ⟨0, rfl, .refl _⟩
  | perform r k ih =>
    obtain ⟨hages, -⟩ := served w hw st r
    obtain ⟨t, hnow, ht⟩ := ih (respond w st r).1 (hages.late hc).1
    refine ⟨((respond w st r).2.now - st.now) + t, ?_, .step (late_respond w hw hc r) ht⟩
    rw [← Nat.add_assoc, Nat.add_sub_cancel' hages.now]
    exact hnow

/-- A program during which the run is cancelled goes on from then. What is not cut short is late
from its beginning. -/
theorem lingers_run {st : State σ} {c : Nat} (hnew : .cancelled c ∉ st.notes)
    (hc : .cancelled c ∈ (p.run w st).2.notes) :
    st.now ≤ c ∧ ∃ t, (p.run w st).2.now = c + t ∧ Lingers p t (p.run w st).1 := by
  induction p generalizing st with
  | pure a => exact absurd hc hnew
  | perform r k ih =>
    obtain ⟨hages, htakes⟩ := served w hw st r
    by_cases hmem : .cancelled c ∈ (respond w st r).2.notes
    · obtain ⟨hc', hlo, hhi, hslack⟩ := (hages.stops c hmem).resolve_left hnew
      obtain ⟨t, hnow, ht⟩ := late_run w hw (k (respond w st r).1) hc'
      refine ⟨hlo, ((respond w st r).2.now - c) + t, ?_, ?_⟩
      · rw [← Nat.add_assoc, Nat.add_sub_cancel' hhi]
        exact hnow
      · cases r with
        | shielded session d limit =>
          exact ⟨0, _, .refl _, .step (Nat.sub_le_iff_le_add'.2 hslack) ht⟩
        | _ =>
          have hzero : (respond w st _).2.now - c = 0 := Nat.sub_eq_zero_of_le hslack
          rw [hzero, Nat.zero_add]
          exact ⟨_, _, .step htakes (.refl _), ht⟩
    · obtain ⟨hlo, t, hnow, u, q, hu, ht⟩ := ih (respond w st r).1 hmem hc
      exact ⟨Nat.le_trans hages.now hlo, t, hnow, _, q, .step htakes hu, ht⟩

/-- A program that takes so long and no longer than that once the run is cancelled. -/
theorem now_le_of_run {m k : Nat} (hp : p.Within m) (hl : ∀ t a, Lingers p t a → t ≤ k)
    {st : State σ} (hst : ∀ c, .cancelled c ∈ st.notes → st.cancelled = true ∧ st.now ≤ c) :
    (p.run w st).2.now ≤ st.now + m ∧
      ∀ c, .cancelled c ∈ (p.run w st).2.notes → (p.run w st).2.now ≤ c + k := by
  refine ⟨?_, fun c hc => ?_⟩
  · obtain ⟨t, hnow, ht⟩ := lasts_run w hw p st
    have := hp t _ ht
    omega
  · by_cases hold : .cancelled c ∈ st.notes
    · obtain ⟨hcancelled, hle⟩ := hst c hold
      obtain ⟨t, hnow, ht⟩ := late_run w hw p hcancelled
      have := hl t _ ht.lingers
      omega
    · obtain ⟨-, t, hnow, ht⟩ := lingers_run w hw p hold hc
      have := hl t _ ht
      omega

end Clock

end Run
end Walkthrough
