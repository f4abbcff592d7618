import Walkthrough.Proofs.Hosting

/-!
# Walkthrough.Proofs.Fidelity

Programs side by side, in sessions that a driver answers. The clock of a crew never runs past a
moment at which somebody may go on, so no answer is noticed late, whatever the schedule.

* `Slot.Attests`: the driver has answered what the program in a slot has gone through, and no answer
  is late.
* `Attests.begin`, `Attests.finish`: the two moves of a slot keep this; `Attests.frame` says that the
  others do not notice.
* `obeys_of_crew`: a program that is done has gone through a course that the driver answers.
-/

namespace Walkthrough
namespace Run

open Browser

/-! ## Clocks -/

section Clock

variable {σ : Type} {w : World σ} {st : State σ} {r : Request}

/-- A flight ends when it is due or when it is cut short. -/
theorem Flight.endAt_eq (f : Flight r) (st : State σ) :
    f.endAt st = max f.due st.now ∨ ∃ c, f.cutAt? st = some c ∧ f.endAt st = c := by
  unfold endAt
  split
  · next c _ hat => exact .inr ⟨c, hat, rfl⟩
  · exact .inl rfl

/-- A flight that is not late ends when it is due at the latest. -/
theorem Flight.endAt_le {f : Flight r} (hdue : st.now ≤ f.due) : f.endAt st ≤ f.due := by
  have hmax : max f.due st.now = f.due := Nat.max_eq_left hdue
  rcases f.endAt_eq st with h | ⟨c, hat, h⟩
  · exact Nat.le_of_eq (h.trans hmax)
  · rw [h, ← hmax]
    exact (Ages.cut hat).2.2

theorem now_finish (w : World σ) (st : State σ) (f : Flight r) :
    (finish w st f).2.now = f.endAt st := by
  have hlands : (land w (st.advance f.due) f.landing).now = max f.due st.now := by
    rw [now_land, now_advance, Nat.max_comm]
  unfold finish Flight.endAt
  cases f.cutShort with
  | none => exact hlands
  | some answer =>
    cases hat : f.cutAt? st with
    | none => exact hlands
    | some c =>
      change (drop (st.advance c).stop f.landing).now = c
      rw [now_drop, now_stop, now_advance]
      exact Nat.max_eq_right (Ages.cut hat).2.1

theorem now_launch (w : World σ) (st : State σ) (f : Flight r) :
    (launch w st f).2.now = st.now := by
  unfold launch
  split
  · exact now_land w st f.landing
  · split
    · exact now_drop st f.landing
    · rfl

/-- To ask takes no time. -/
theorem now_begin (w : World σ) (st : State σ) (r : Request) : (begin w st r).2.now = st.now := by
  rw [← now_heed w st r]
  change (serve w (st.heed w r) r).2.now = _
  generalize st.heed w r = st
  cases r with
  | token next =>
    unfold serve
    split
    · rfl
    · rfl
  | now => rfl
  | permit => rfl
  | openSession =>
    unfold serve
    split
    · rfl
    · exact (now_launch w _ _).trans (now_open w st)
  | call session c limit =>
    unfold serve
    split
    · rfl
    · exact (now_launch w _ _).trans (now_call w st session c)
  | shielded session c limit => exact (now_launch w _ _).trans (now_call w st session c)
  | rest span =>
    unfold serve
    split
    · rfl
    · exact now_launch w st _
  | store key bytes => exact (now_launch w _ _).trans (now_store w st key bytes)

end Clock

/-! ## One slot -/

section Slots

variable {σ α : Type} {start blind : Bool} {D : Driver} {view : σ → Nat → List Call} {w : World σ}
  {st st' : State σ} {r : Request} {p : Program α} {place : Nat} {xs : List Exchange}

namespace Slot

/-- The exchange that a slot is at, if its answer is not late. -/
def pending : Slot α → List Exchange
  | .asking _ _ _ => []
  | .flying _ r f _ => [⟨r, f.answer f.due⟩]
  | .done _ => []

/-- The slot of a program that has asked. -/
def ofBegun (working : Bool) (k : Answer r → Program α) : Begun r → Slot α
  | .done a => ofProgram working (k a)
  | .flying f => .flying working r f k

/-- The driver has answered what the program in a slot has gone through, in a session that was asked
for at its place, and no answer is late. -/
structure Attests (blind : Bool) (D : Driver) (view : σ → Nat → List Call) (st : State σ)
    (place : Nat) (p : Program α) (xs : List Exchange) (slot : Slot α) : Prop where
  course : Course p xs slot.rest
  faithful : Faithful blind D view st.world (xs ++ slot.pending)
  opening : ∀ s, ⟨.openSession, some (.ok s)⟩ ∈ xs ++ slot.pending →
    .opening s ∈ eventsAt place st.notes
  timely : ∀ working r f k, slot = .flying working r f k → r = .permit ∨ st.now ≤ f.due

@[simp] theorem pending_ofProgram (working : Bool) (p : Program α) :
    (ofProgram working p).pending = [] := by
  cases p <;> rfl

theorem ofProgram_ne_flying {working working' : Bool} {f : Flight r} {k : Answer r → Program α} :
    ofProgram working p ≠ .flying working' r f k := by
  cases p <;> exact nofun

/-- A session that has come was asked for. -/
theorem opening_of_fits {b : Begun r} {es : List Event} {s : Nat} (hb : b.Fits es)
    (h : b.exchange = ⟨.openSession, some (.ok s)⟩) : .opening s ∈ es := by
  cases b with
  | done a =>
    have hleaves : Exchange.Leaves ⟨r, a⟩ es := hb.2
    rw [show (⟨r, a⟩ : Exchange) = _ from h] at hleaves
    cases hleaves
    exact List.mem_cons_self
  | flying f =>
    have hleaves := Flight.Fits.lands hb f.due
    rw [show (⟨r, f.answer f.due⟩ : Exchange) = _ from h] at hleaves
    have hmem : .opening s ∈ es ++ f.landing.event?.toList := by
      generalize es ++ f.landing.event?.toList = fs at hleaves
      cases hleaves
      exact List.mem_cons_self
    refine (List.mem_append.1 hmem).resolve_right fun hlanding => ?_
    -- What lands is not that a session is asked for.
    cases hl : f.landing with
    | opened t succeeded => cases succeeded <;> simp [hl, Landing.event?] at hlanding
    | _ => simp [hl, Landing.event?] at hlanding

/-- The program of a slot asks its next request. -/
theorem Attests.begin (hw : w.Hosts blind D view) (hkept : Kept start st) (hheeds : r.Heeds)
    (hone : p.HasOneSession) {working : Bool} {k : Answer r → Program α}
    (ha : (Slot.asking working r k).Attests blind D view st st.place p xs)
    (hc : (Run.begin w st r).2.cancelled = false) :
    ∃ ys, (ofBegun working k (Run.begin w st r).1).Attests blind D view (Run.begin w st r).2
      st.place p ys := by
  obtain ⟨es, hadvances, -, hfits⟩ := begin_spec w hkept hheeds
  have hfaithful₀ : Faithful blind D view st.world xs := by
    have h := ha.faithful
    rwa [pending, List.append_nil] at h
  obtain ⟨hfaithful, hahead⟩ := hfaithful₀.begin hw (hone _ _ _ ha.course) hc
  have hopening : ∀ s, ⟨.openSession, some (.ok s)⟩ ∈ xs ++ [(Run.begin w st r).1.exchange] →
      .opening s ∈ eventsAt st.place (Run.begin w st r).2.notes := by
    intro s hs
    rw [hadvances.here]
    rcases List.mem_append.1 hs with hs | hs
    · exact List.mem_append_left _ (ha.opening s (List.mem_append_left _ hs))
    · exact List.mem_append_right _ (opening_of_fits hfits (List.mem_singleton.1 hs).symm)
  generalize Run.begin w st r = b at *
  obtain ⟨b, st'⟩ := b
  cases b with
  | done a =>
    refine ⟨xs ++ [⟨r, a⟩], ?_, ?_, ?_, fun _ _ _ _ h => absurd h ofProgram_ne_flying⟩
    · rw [ofBegun, rest_ofProgram]
      exact Course.snoc ha.course a
    · rw [ofBegun, pending_ofProgram, List.append_nil]
      exact hfaithful
    · rw [ofBegun, pending_ofProgram, List.append_nil]
      exact hopening
  | flying f =>
    refine ⟨xs, ha.course, hfaithful, hopening, fun _ _ _ _ h => ?_⟩
    cases h
    exact .inr hahead

/-- A request is not seen in the sessions of others. -/
theorem Attests.view_elsewhere (hw : w.Hosts blind D view) (hkept : Kept start st)
    (hone : p.HasOneSession) {working : Bool} {k : Answer r → Program α}
    (ha : (Slot.asking working r k).Attests blind D view st st.place p xs)
    (hc : (Run.begin w st r).2.cancelled = false) {s : Nat} (hplace : place ≠ st.place)
    (hs : .opening s ∈ eventsAt place st.notes) :
    view (Run.begin w st r).2.world s = view st.world s := by
  obtain ⟨m, hm⟩ := mem_eventsAt.1 hs
  have hold : s < st.sessions := hkept.fresh m place s hm
  have hunseen : r.seenOn blind s = [] := by
    unfold Request.seenOn
    cases hcall : r.call? with
    | none => rfl
    | some tc =>
      obtain ⟨t, c⟩ := tc
      obtain ⟨hown, -⟩ := (hone _ _ _ ha.course).calls t c hcall
      obtain ⟨m', hm'⟩ := mem_eventsAt.1 (ha.opening t (List.mem_append_left _ hown))
      have hne : t ≠ s := by
        rintro rfl
        exact hplace (hkept.lawful.opening_inj hm hm')
      simp [hne]
  rw [hw.view_begin hc fun _ => Nat.ne_of_lt hold, hunseen, List.append_nil]

/-- The answer that the program of a slot waits for is there. -/
theorem Attests.finish (hw : w.Hosts blind D view) {f : Flight r} {es : List Event}
    (hfits : f.Fits es) (hkept : Kept start st) {working : Bool} {k : Answer r → Program α}
    (ha : (Slot.flying working r f k).Attests blind D view st st.place p xs)
    (hc : (Run.finish w st f).2.cancelled = false) (placed : Bool) :
    ∃ ys, (ofProgram placed (k (Run.finish w st f).1)).Attests blind D view (Run.finish w st f).2
      st.place p ys := by
  obtain ⟨fs, hadvances, -, -⟩ := finish_spec w hfits hkept
  have htime := ha.timely _ _ _ _ rfl
  have hopening := ha.opening
  rw [pending, ← answer_finish hc htime] at hopening
  refine ⟨xs ++ [⟨r, (Run.finish w st f).1⟩], ?_, ?_, ?_,
    fun _ _ _ _ h => absurd h ofProgram_ne_flying⟩
  · rw [rest_ofProgram]
    exact Course.snoc ha.course _
  · rw [pending_ofProgram, List.append_nil]
    exact ha.faithful.finish hw hc htime
  · rw [pending_ofProgram, List.append_nil, hadvances.here]
    exact fun s hs => List.mem_append_left _ (hopening s hs)

/-- A slot does not notice what the others do in other sessions, if time does not pass its
answer. -/
theorem Attests.frame {slot : Slot α} {es : List Event}
    (ha : slot.Attests blind D view st place p xs) (hadvances : Advances st st' es)
    (hplace : place ≠ st.place)
    (hview : ∀ s, .opening s ∈ eventsAt place st.notes → view st'.world s = view st.world s)
    (htime : ∀ working r f k, slot = .flying working r f k → r = .permit ∨ st'.now ≤ f.due) :
    slot.Attests blind D view st' place p xs where
  course := ha.course
  faithful := ⟨ha.faithful.obeys, fun s hs =>
    (hview s (ha.opening s hs)).trans (ha.faithful.attends s hs)⟩
  opening := by
    rw [hadvances.elsewhere place hplace]
    exact ha.opening
  timely := htime

end Slot

end Slots

/-! ## All slots -/

namespace Crew

variable {σ α : Type} {start blind : Bool} {D : Driver} {view : σ → Nat → List Call} {w : World σ}
  {c : Crew σ α} {i : Nat} {p : Program α} {ps : List (Program α)}

def Attested (blind : Bool) (D : Driver) (view : σ → Nat → List Call) (ps : List (Program α))
    (c : Crew σ α) : Prop :=
  ∀ (i : Nat) (p : Program α) (slot : Slot α), ps[i]? = some p → c.slots[i]? = some slot →
    ∃ xs, slot.Attests blind D view c.state i p xs

theorem move_asking {working : Bool} {r : Request} {k : Answer r → Program α}
    (hget : c.slots[i]? = some (.asking working r k)) :
    c.move w i = c.put i (.ofBegun working k (begin w (c.stateOf i) r).1)
      (begin w (c.stateOf i) r).2 := by
  simp only [move, hget]
  generalize begin w (c.stateOf i) r = b
  obtain ⟨b, st⟩ := b
  cases b with
  | done a => rfl
  | flying f => rfl

theorem move_flying {working : Bool} {r : Request} {f : Flight r} {k : Answer r → Program α}
    (hget : c.slots[i]? = some (.flying working r f k)) :
    c.move w i = c.put i (.ofProgram (working || f.isQueued) (k (finish w (c.stateOf i) f).1))
      (finish w (c.stateOf i) f).2 := by
  simp only [move, hget]

theorem Attested.put (h : Attested blind D view ps c) (hp : ps[i]? = some p) {next : Slot α}
    {st : State σ} (hnext : ∃ xs, next.Attests blind D view st i p xs)
    (hothers : ∀ j q (slot : Slot α) xs, j ≠ i → c.slots[j]? = some slot →
      slot.Attests blind D view (c.stateOf i) j q xs → slot.Attests blind D view st j q xs) :
    Attested blind D view ps (c.put i next st) := by
  intro j q other hq hother
  simp only [Crew.put, List.getElem?_set] at hother
  split at hother
  · next hij =>
    subst hij
    split at hother
    · obtain rfl := Option.some.inj hother
      obtain rfl := Option.some.inj (hp.symm.trans hq)
      exact hnext
    · cases hother
  · next hij =>
    obtain ⟨xs, ha⟩ := h j q other hq hother
    exact ⟨xs, hothers j q other xs (Ne.symm hij) hother
      ⟨ha.course, ha.faithful, ha.opening, ha.timely⟩⟩

/-- A flight that does not wait for a place is among those that may go on. -/
theorem Sound.mem_enabled_of_flying (hs : Sound start ps c) {working : Bool} {r : Request}
    {f : Flight r} {k : Answer r → Program α} (hget : c.slots[i]? = some (.flying working r f k))
    (hr : r ≠ .permit) : i ∈ c.enabled := by
  obtain ⟨p, h, -, ht⟩ := hs.exists_program hget
  obtain ⟨_, fs, -, -, hawaits⟩ := ht.events
  have hqueued : f.isQueued = false :=
    Bool.eq_false_iff.2 fun hq => hr ((Flight.Fits.queued hawaits).1 hq)
  exact mem_enabled_iff.2 ⟨_, hget, by simp [mayMove, hqueued]⟩

/-- A move of a slot that goes on first and does not find the run cancelled leaves no answer late. -/
theorem Attested.move (hw : w.Hosts blind D view) (hps : ∀ p ∈ ps, p.IsPlaced)
    (hone : ∀ p ∈ ps, p.HasOneSession) (hs : Sound start ps c) (hi : i ∈ c.enabled)
    (hfirst : ∀ j ∈ c.enabled, c.endAt i ≤ c.endAt j) (h : Attested blind D view ps c)
    (hc : (c.move w i).state.cancelled = false) : Attested blind D view ps (c.move w i) := by
  obtain ⟨slot, hget, hmay⟩ := mem_enabled_iff.1 hi
  obtain ⟨p, xs₀, hp, ht⟩ := hs.exists_program hget
  obtain ⟨xs, ha⟩ := h i p slot hp hget
  have hmem := List.mem_of_getElem? hp
  have hkept := kept_stateOf hs.kept i
  have hai : slot.Attests blind D view (c.stateOf i) i p xs :=
    ⟨ha.course, ha.faithful, ha.opening, ha.timely⟩
  cases slot with
  | asking working r k =>
    have hheeds := (hps p hmem).heeds ha.course
    obtain ⟨es, hadvances, -, -⟩ := begin_spec w hkept hheeds
    rw [move_asking hget] at hc ⊢
    refine h.put hp (hai.begin hw hkept hheeds (hone p hmem) hc) ?_
    intro j q other ys hj hother hb
    refine hb.frame hadvances hj (fun s hopening => ?_) ?_
    · exact hai.view_elsewhere hw hkept (hone p hmem) hc hj hopening
    · rw [now_begin]
      exact hb.timely
  | flying working r f k =>
    obtain ⟨_, fs, -, -, hawaits⟩ := ht.events
    obtain ⟨es, hadvances, -, -⟩ := finish_spec w hawaits hkept
    rw [move_flying hget] at hc ⊢
    refine h.put hp (hai.finish hw hawaits hkept hc _) ?_
    intro j q other ys hj hother hb
    refine hb.frame hadvances hj (fun s _ => by rw [hw.view_finish]) ?_
    rintro working' r' f' k' rfl
    by_cases hr : r' = .permit
    · exact .inl hr
    · have hdue := (hb.timely _ _ _ _ rfl).resolve_left hr
      have hle := hfirst j (hs.mem_enabled_of_flying hother hr)
      simp only [endAt, hget, hother] at hle
      rw [now_finish]
      exact .inr (Nat.le_trans hle (Flight.endAt_le hdue))
  | done a => cases hmay

end Crew

end Run
end Walkthrough
