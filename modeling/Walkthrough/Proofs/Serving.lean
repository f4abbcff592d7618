import Walkthrough.Proofs.Record
import Walkthrough.Run.Crew

/-!
# Walkthrough.Proofs.Serving

What one request does to the state and its record, whatever the world. A request is served in two
moves: it begins, and what waits for its answer ends.

* `Advances`: a state has gone on for the scenario at its place.
* `Kept`: the record is lawful and agrees with the state.
* `begin_spec`, `finish_spec`: the two moves, and `run_spec` for a whole program.
-/

namespace Walkthrough
namespace Run

open Browser

/-- A request that may be made when the run is cancelled: without heed of that, only captures and
the ends of sessions are asked for. -/
def Request.Heeds : Request → Prop
  | .shielded _ c _ => c.mayComeLate = true
  | _ => True

section States

variable {σ : Type}

/-- A state has gone on for the scenario at its place, and some events were noted for it. -/
structure Advances (st st' : State σ) (es : List Event) : Prop where
  place : st'.place = st.place
  here : eventsAt st.place st'.notes = eventsAt st.place st.notes ++ es
  elsewhere : ∀ i, i ≠ st.place → eventsAt i st'.notes = eventsAt i st.notes
  suffix : st.notes <:+ st'.notes
  cancelled : st.cancelled = true → st'.cancelled = true

namespace Advances

variable {st st' st'' : State σ} {es fs : List Event}

theorem refl (st : State σ) : Advances st st [] :=
  ⟨rfl, (List.append_nil _).symm, fun _ _ => rfl, List.suffix_refl _, id⟩

theorem eventsAt_eq (h : Advances st st' []) (i : Nat) :
    eventsAt i st'.notes = eventsAt i st.notes := by
  by_cases hi : i = st.place
  · subst hi
    rw [h.here, List.append_nil]
  · exact h.elsewhere i hi

theorem trans (h : Advances st st' es) (g : Advances st' st'' fs) :
    Advances st st'' (es ++ fs) where
  place := g.place.trans h.place
  here := by
    have hg := g.here
    rw [h.place, h.here, List.append_assoc] at hg
    exact hg
  elsewhere i hi := (g.elsewhere i (h.place ▸ hi)).trans (h.elsewhere i hi)
  suffix := h.suffix.trans g.suffix
  cancelled hc := g.cancelled (h.cancelled hc)

theorem uncancelled (h : Advances st st' es) (hc : st'.cancelled = false) :
    st.cancelled = false := by
  refine Bool.eq_false_iff.2 fun hcancelled => ?_
  rw [h.cancelled hcancelled] at hc
  cases hc

theorem note (st : State σ) (e : Event) : Advances st (st.note e) [e] where
  place := rfl
  here := eventsAt_event_self
  elsewhere _ hi := eventsAt_event_of_ne hi.symm
  suffix := List.suffix_cons _ _
  cancelled := id

theorem note? (st : State σ) (e? : Option Event) : Advances st (st.note? e?) e?.toList := by
  cases e? with
  | none => exact .refl st
  | some e => exact .note st e

theorem stop (st : State σ) : Advances st st.stop [] := by
  unfold State.stop
  split
  · exact .refl st
  · exact ⟨rfl, by simp, fun _ _ => rfl, List.suffix_cons _ _, fun _ => rfl⟩

theorem stopIf (st : State σ) (stops : Bool) : Advances st (st.stopIf stops) [] := by
  cases stops with
  | false => exact .refl st
  | true => exact .stop st

theorem pass (st : State σ) (moment : Nat) : Advances st (st.pass moment) [] :=
  ⟨rfl, (List.append_nil _).symm, fun _ _ => rfl, List.suffix_refl _, id⟩

theorem advance (st : State σ) (moment : Nat) : Advances st (st.advance moment) [] := by
  unfold State.advance
  split
  · split
    · exact ((pass st _).trans (.stop _)).trans (.pass _ moment)
    · exact .pass st moment
  · exact .pass st moment

theorem settle (w : World σ) (st : State σ) (l : Landing) : Advances st (Run.settle w st l) [] := by
  unfold Run.settle
  split
  · exact ⟨rfl, (List.append_nil _).symm, fun _ _ => rfl, List.suffix_refl _, id⟩
  · exact .refl st

theorem land (w : World σ) (st : State σ) (l : Landing) :
    Advances st (Run.land w st l) l.event?.toList := by
  rw [← List.append_nil l.event?.toList]
  exact (note? st l.event?).trans (.settle w _ l)

theorem drop (st : State σ) (l : Landing) : Advances st (Run.drop st l) l.loss?.toList :=
  .note? st _

theorem heed (w : World σ) (st : State σ) (r : Request) : Advances st (st.heed w r) [] :=
  (show Advances st { st with world := (w.interrupts r st.world).2 } [] from
    ⟨rfl, (List.append_nil _).symm, fun _ _ => rfl, List.suffix_refl _, id⟩).trans (.stopIf _ _)

end Advances

/-- The record is lawful, and tells whether the run is cancelled and which sessions were asked
for. -/
structure Kept (start : Bool) (st : State σ) : Prop where
  lawful : IsLawful start st.notes
  flag : st.cancelled = true ↔ Stopped start st.notes
  fresh : ∀ m p s, .event m p (.opening s) ∈ st.notes → s < st.sessions

namespace Kept

variable {start : Bool} {st : State σ}

theorem note (h : Kept start st) {e : Event}
    (he : (Note.event st.now st.place e).Follows start st.notes)
    (hopening : ∀ s, e ≠ .opening s) : Kept start (st.note e) where
  lawful := ⟨he, h.lawful⟩
  flag := by
    rw [State.note, h.flag]
    simp [Stopped]
  fresh m p s hm := by
    rcases List.mem_cons.1 hm with hm | hm
    · cases hm
      exact absurd rfl (hopening s)
    · exact h.fresh m p s hm

theorem stop (h : Kept start st) : Kept start st.stop := by
  unfold State.stop
  split
  · exact h
  · next hc =>
    have hstopped : Stopped start (.cancelled st.now :: st.notes) := .inr ⟨_, List.mem_cons_self⟩
    refine ⟨⟨fun hs => hc (h.flag.2 hs), h.lawful⟩, ⟨fun _ => hstopped, fun _ => rfl⟩,
      fun m p s hm => ?_⟩
    rcases List.mem_cons.1 hm with hm | hm
    · cases hm
    · exact h.fresh m p s hm

theorem stopIf (h : Kept start st) (stops : Bool) : Kept start (st.stopIf stops) := by
  cases stops with
  | false => exact h
  | true => exact h.stop

theorem pass (h : Kept start st) (moment : Nat) : Kept start (st.pass moment) :=
  ⟨h.lawful, h.flag, h.fresh⟩

theorem advance (h : Kept start st) (moment : Nat) : Kept start (st.advance moment) := by
  unfold State.advance
  split
  · split
    · exact (h.pass _).stop.pass _
    · exact h.pass _
  · exact h.pass _

theorem settle (w : World σ) (h : Kept start st) (l : Landing) :
    Kept start (Run.settle w st l) := by
  unfold Run.settle
  split
  · exact ⟨h.lawful, h.flag, h.fresh⟩
  · exact h

theorem heed (w : World σ) (h : Kept start st) (r : Request) : Kept start (st.heed w r) :=
  (show Kept start { st with world := (w.interrupts r st.world).2 } from
    ⟨h.lawful, h.flag, h.fresh⟩).stopIf _

/-- An answer that is no longer waited for may be noted at any time. -/
theorem drop (h : Kept start st) (l : Landing) : Kept start (Run.drop st l) := by
  cases l with
  | opened s succeeded => exact h.note trivial nofun
  | ended s c succeeded => exact h.note trivial nofun
  | _ => exact h

/-- An answer may be noted; a session, when the run is cancelled, only at once. -/
theorem land (w : World σ) (h : Kept start st) (l : Landing)
    (hopened : ∀ s succeeded, l = .opened s succeeded →
      Stopped start st.notes → IsCutOff st.now st.place s st.notes) :
    Kept start (Run.land w st l) := by
  refine Kept.settle w ?_ l
  cases l with
  | opened s succeeded =>
    cases succeeded with
    | true => exact h.note (hopened s true rfl) nofun
    | false => exact h.note (hopened s false rfl) nofun
  | ended s c succeeded => exact h.note trivial nofun
  | stored key bytes path? => exact h.note trivial nofun
  | _ => exact h

end Kept

/-- A flight that waits for the answer to a request of which some events are noted already. -/
structure Flight.Fits {r : Request} (f : Flight r) (es : List Event) : Prop where
  /-- Its answer and what that brings with it complete them. -/
  lands : ∀ t, Exchange.Leaves ⟨r, f.answer t⟩ (es ++ f.landing.event?.toList)
  /-- So does its loss. -/
  lost : ∀ answer t, f.cutShort = some answer →
    Exchange.Leaves ⟨r, answer t⟩ (es ++ f.landing.loss?.toList)
  beginning : ∀ e ∈ es, (∃ s, e = .opening s) ∨ ∃ s c, e = .called s c
  /-- A session is not waited for once the run is cancelled. -/
  opened : ∀ s succeeded, f.landing = .opened s succeeded → f.cutShort.isSome = true
  queued : f.isQueued = true ↔ r = .permit
  /-- Whether the run is cancelled is known at once. -/
  waits : ∀ next, r ≠ .token next

/-- What has begun is answered, or the answer will fit what is noted. -/
def Begun.Fits {r : Request} (es : List Event) : Begun r → Prop
  | .done a => r ≠ .permit ∧ Exchange.Leaves ⟨r, a⟩ es
  | .flying f => f.Fits es

variable {start : Bool} {st : State σ} {r : Request} {es : List Event}

theorem launch_spec (w : World σ) {f : Flight r} (hf : f.Fits es) (hr : r ≠ .permit)
    (h : Kept start st)
    (hopened : ∀ s succeeded, f.landing = .opened s succeeded →
      Stopped start st.notes → IsCutOff st.now st.place s st.notes) :
    ∃ fs, Advances st (launch w st f).2 fs ∧ Kept start (launch w st f).2 ∧
      (launch w st f).1.Fits (es ++ fs) := by
  unfold launch
  split
  · exact ⟨_, .land w st f.landing, h.land w f.landing hopened, hr, hf.lands st.now⟩
  · split
    · next answer _ hcut =>
      exact ⟨_, .drop st f.landing, h.drop f.landing, hr, hf.lost answer st.now hcut⟩
    · exact ⟨[], .refl st, h, (List.append_nil es).symm ▸ hf⟩

/-- A browser is asked for a session, whose number is new. -/
theorem open_spec (w : World σ) (h : Kept start st) (hc : st.cancelled = false) :
    Advances st (st.open w).2 [.opening st.sessions] ∧ Kept start (st.open w).2 ∧
      (Stopped start (st.open w).2.notes →
        IsCutOff (st.open w).2.now (st.open w).2.place st.sessions (st.open w).2.notes) := by
  have hnot : ¬ Stopped start st.notes := fun hs => by rw [h.flag.2 hs] at hc; cases hc
  let asked : State σ :=
    { st.note (.opening st.sessions) with
      world := (w.opening st.sessions st.world).2, sessions := st.sessions + 1 }
  have hopening : Advances st asked [.opening st.sessions] := by
    have hn := Advances.note st (.opening st.sessions)
    exact ⟨hn.place, hn.here, hn.elsewhere, hn.suffix, hn.cancelled⟩
  have hkept : Kept start asked := by
    refine ⟨⟨⟨hnot, h.fresh⟩, h.lawful⟩, ?_, fun m p s hm => ?_⟩
    · simpa [asked, State.note, Stopped] using h.flag
    · rcases List.mem_cons.1 hm with hm | hm
      · cases hm
        exact Nat.lt_succ_self _
      · exact Nat.lt_succ_of_lt (h.fresh m p s hm)
  have hasked : asked.cancelled = false := hc
  refine ⟨hopening.trans (.stopIf asked (w.opening st.sessions st.world).1.cancels),
    hkept.stopIf (w.opening st.sessions st.world).1.cancels, fun hs => ?_⟩
  change Stopped start (asked.stopIf _).notes at hs
  change IsCutOff (asked.stopIf _).now (asked.stopIf _).place _ (asked.stopIf _).notes
  cases hcancels : (w.opening st.sessions st.world).1.cancels with
  | false =>
    rw [hcancels] at hs
    rw [hkept.flag.2 hs] at hasked
    cases hasked
  | true =>
    simp only [State.stopIf, if_true, State.stop, hasked, Bool.false_eq_true, if_false]
    exact ⟨st.notes, rfl⟩

theorem call_spec (w : World σ) (h : Kept start st) (session : Nat) (c : Call)
    (hc : st.cancelled = true → c.mayComeLate = true) :
    Advances st (st.call w session c).2 [.called session c] ∧
      Kept start (st.call w session c).2 := by
  let asked : State σ :=
    { st.note (.called session c) with world := (w.reaction session c st.world).2 }
  have hcalled : Advances st asked [.called session c] := by
    have hn := Advances.note st (.called session c)
    exact ⟨hn.place, hn.here, hn.elsewhere, hn.suffix, hn.cancelled⟩
  have hkept : Kept start asked := by
    have hn := h.note (e := .called session c) (fun hs => hc (h.flag.2 hs)) nofun
    exact ⟨hn.lawful, hn.flag, hn.fresh⟩
  exact ⟨hcalled.trans (.stopIf asked _), hkept.stopIf _⟩

theorem store_spec (w : World σ) (h : Kept start st) (key : Capture.Key) (bytes : ByteArray) :
    Advances st (st.store w key bytes).2 [] ∧ Kept start (st.store w key bytes).2 := by
  let asked : State σ := { st with world := (w.storing key bytes st.world).2 }
  have hasked : Advances st asked [] :=
    ⟨rfl, (List.append_nil _).symm, fun _ _ => rfl, List.suffix_refl _, id⟩
  have hkept : Kept start asked := ⟨h.lawful, h.flag, h.fresh⟩
  exact ⟨hasked.trans (.stopIf asked _), hkept.stopIf _⟩

/-! The flights fit what is noted when they start. -/

theorem fits_queueing (since : Nat) : (Flight.queueing since).Fits [] :=
  ⟨fun _ => .permit _, nofun, List.forall_mem_nil _, nofun,
    by simp [Flight.isQueued, Flight.queueing], nofun⟩

theorem fits_opening (since session : Nat) (reaction : Reaction (Except Browser.Fault Unit)) :
    (Flight.opening since session reaction).Fits [.opening session] where
  lands t := by
    simp only [Flight.opening]
    cases reaction.result with
    | ok u => exact .opened session
    | error f => exact .refused session f
  lost answer t hcut := by
    cases hcut
    exact .abandoned session
  beginning := by simp
  opened _ _ _ := rfl
  queued := by simp [Flight.isQueued, Flight.opening]
  waits := nofun

theorem fits_calling (since session : Nat) (c : Call) (limit : Duration)
    (reaction : Reaction (Except Browser.Fault c.Result)) :
    (Flight.calling since session c limit reaction).Fits [.called session c] where
  lands _ := .called session c limit _
  lost _ _ _ := .called session c limit _
  beginning := by simp
  opened := nofun
  queued := by simp [Flight.isQueued, Flight.calling]
  waits := nofun

theorem fits_shielding (since session : Nat) (c : Call) (limit : Duration)
    (reaction : Reaction (Except Browser.Fault c.Result)) :
    (Flight.shielding since session c limit reaction).Fits [.called session c] where
  lands _ := .shielded session c limit _
  lost := nofun
  beginning := by simp
  opened := nofun
  queued := by simp [Flight.isQueued, Flight.shielding]
  waits := nofun

theorem fits_resting (since : Nat) (span : Duration) : (Flight.resting since span).Fits [] where
  lands _ := .rest span _
  lost _ _ _ := .rest span _
  beginning := List.forall_mem_nil _
  opened := nofun
  queued := by simp [Flight.isQueued, Flight.resting]
  waits := nofun

theorem fits_storing (since : Nat) (key : Capture.Key) (bytes : ByteArray)
    (reaction : Reaction (Option String)) : (Flight.storing since key bytes reaction).Fits [] where
  lands _ := .stored key bytes _
  lost := nofun
  beginning := List.forall_mem_nil _
  opened := nofun
  queued := by simp [Flight.isQueued, Flight.storing]
  waits := nofun

/-- A request begins that nobody interrupts: one case for each kind of request. -/
theorem serve_spec (w : World σ) (h : Kept start st) (hr : r.Heeds) :
    ∃ fs, Advances st (serve w st r).2 fs ∧ Kept start (serve w st r).2 ∧
      (serve w st r).1.Fits fs := by
  cases r with
  | token next =>
    unfold serve
    split
    · exact ⟨[], .refl st, h, nofun, .halt next⟩
    · next hc =>
      exact ⟨_, .note st _, h.note (fun hs => hc (h.flag.2 hs)) nofun, nofun, .ahead next⟩
  | now => exact ⟨[], .refl st, h, nofun, .now _⟩
  | permit => exact ⟨[], .refl st, h, fits_queueing _⟩
  | openSession =>
    unfold serve
    split
    · exact ⟨[], .refl st, h, nofun, .unasked⟩
    · next hc =>
      obtain ⟨hasked, hkept, hcut⟩ := open_spec w h (Bool.eq_false_iff.2 hc)
      have hopening := fits_opening (st.open w).2.now st.sessions (st.open w).1
      obtain ⟨fs, hadvances, hkept', hfits⟩ :=
        launch_spec w hopening nofun hkept fun s b hl hs => by
          cases hl
          exact hcut hs
      exact ⟨_, hasked.trans hadvances, hkept', hfits⟩
  | call session c limit =>
    unfold serve
    split
    · exact ⟨[], .refl st, h, nofun, .uncalled session c limit 0⟩
    · next hc =>
      obtain ⟨hasked, hkept⟩ := call_spec w h session c fun hs => absurd hs hc
      obtain ⟨fs, hadvances, hkept', hfits⟩ := launch_spec w
        (fits_calling _ session c limit (st.call w session c).1) nofun hkept nofun
      exact ⟨_, hasked.trans hadvances, hkept', hfits⟩
  | shielded session c limit =>
    obtain ⟨hasked, hkept⟩ := call_spec w h session c fun _ => hr
    obtain ⟨fs, hadvances, hkept', hfits⟩ := launch_spec w
      (fits_shielding _ session c limit (st.call w session c).1) nofun hkept nofun
    exact ⟨_, hasked.trans hadvances, hkept', hfits⟩
  | rest span =>
    unfold serve
    split
    · exact ⟨[], .refl st, h, nofun, .rest span _⟩
    · exact launch_spec w (fits_resting st.now span) nofun h nofun
  | store key bytes =>
    obtain ⟨hasked, hkept⟩ := store_spec w h key bytes
    obtain ⟨fs, hadvances, hkept', hfits⟩ := launch_spec w
      (fits_storing _ key bytes (st.store w key bytes).1) nofun hkept nofun
    exact ⟨_, hasked.trans hadvances, hkept', hfits⟩

theorem begin_spec (w : World σ) (h : Kept start st) (hr : r.Heeds) :
    ∃ fs, Advances st (begin w st r).2 fs ∧ Kept start (begin w st r).2 ∧
      (begin w st r).1.Fits fs := by
  obtain ⟨fs, hadvances, hkept, hfits⟩ := serve_spec w (h.heed w r) hr
  exact ⟨fs, (Advances.heed w st r).trans hadvances, hkept, hfits⟩

/-- A flight ends: its answer comes, or it is no longer waited for. -/
theorem finish_spec (w : World σ) {f : Flight r} (hf : f.Fits es) (h : Kept start st) :
    ∃ fs, Advances st (finish w st f).2 fs ∧ Kept start (finish w st f).2 ∧
      Exchange.Leaves ⟨r, (finish w st f).1⟩ (es ++ fs) := by
  have lands (hopened : ∀ s succeeded, f.landing = .opened s succeeded →
      ¬ Stopped start (st.advance f.due).notes) :
      ∃ fs, Advances st (land w (st.advance f.due) f.landing) fs ∧
        Kept start (land w (st.advance f.due) f.landing) ∧
        Exchange.Leaves ⟨r, f.answer (st.advance f.due).now⟩ (es ++ fs) :=
    ⟨_, (Advances.advance st f.due).trans (.land w _ f.landing),
      (h.advance f.due).land w f.landing fun s b hl hs => absurd hs (hopened s b hl),
      by simpa using hf.lands _⟩
  unfold finish
  split
  · next answer c hcut _ =>
    exact ⟨_, ((Advances.advance st c).trans (.stop _)).trans (.drop _ f.landing),
      (h.advance c).stop.drop f.landing, by simpa using hf.lost answer c hcut⟩
  · next hnot =>
    refine lands ?_
    intro s b hl
    -- The flight can be cut short, so the run was not cancelled before it landed.
    obtain ⟨answer, hcut⟩ := Option.isSome_iff_exists.1 (hf.opened s b hl)
    have hat : f.cutAt? st = none := by
      cases hat : f.cutAt? st with
      | none => rfl
      | some c => exact (hnot answer c hcut hat).elim
    rw [← (h.advance f.due).flag]
    unfold Flight.cutAt? at hat
    split at hat
    · cases hat
    · next hc =>
      unfold State.advance
      cases hca : st.cancelAt with
      | none => exact hc
      | some c =>
        simp only [hca, ite_eq_right_iff, reduceCtorEq, imp_false] at hat
        rw [Nat.max_comm] at hat
        simp only [hat, if_false]
        exact hc

/-- Whether the run is cancelled is answered by the state. -/
theorem begin_token (w : World σ) {st' : State σ} {next : Undertaking} {cancelled : Bool}
    (h : begin w st (.token next) = (.done cancelled, st')) : st'.cancelled = cancelled := by
  change (if (st.heed w (.token next)).cancelled then _ else _ :
    Begun (.token next) × State σ) = _ at h
  split at h
  · next hc =>
    cases h
    exact hc
  · next hc =>
    cases h
    exact Bool.eq_false_iff.2 hc

/-! ## Programs -/

theorem respond_spec (w : World σ) (h : Kept start st) (hr : r.Heeds) :
    ∃ fs, Advances st (respond w st r).2 fs ∧ Kept start (respond w st r).2 ∧
      Exchange.Leaves ⟨r, (respond w st r).1⟩ fs ∧
      ∀ next, (⟨r, (respond w st r).1⟩ : Exchange) = ⟨.token next, true⟩ →
        (respond w st r).2.cancelled = true := by
  obtain ⟨fs, hadvances, hkept, hfits⟩ := begin_spec w h hr
  unfold respond
  generalize hbegin : begin w st r = b at hadvances hkept hfits
  obtain ⟨b, st'⟩ := b
  cases b with
  | done a =>
    refine ⟨fs, hadvances, hkept, hfits.2, fun next hx => ?_⟩
    cases hx
    exact begin_token w hbegin
  | flying f =>
    obtain ⟨gs, hadvances', hkept', hleaves⟩ := finish_spec w hfits hkept
    refine ⟨fs ++ gs, hadvances.trans hadvances', hkept', hleaves, fun next hx => ?_⟩
    exact absurd (congrArg Exchange.request hx) (hfits.waits next)

/-- What a program leaves when it has been run: the events of one of its courses. -/
theorem run_spec {α : Type} (w : World σ) {p : Program α} (hp : p.Asks Request.Heeds)
    (h : Kept start st) :
    ∃ xs es, Ends p xs (p.run w st).1 ∧ Recounts xs es ∧ Advances st (p.run w st).2 es ∧
      Kept start (p.run w st).2 ∧
      ∀ next, ⟨.token next, true⟩ ∈ xs → (p.run w st).2.cancelled = true := by
  induction p generalizing st with
  | pure a => exact ⟨[], [], .refl _, .nil, .refl st, h, fun _ hx => nomatch hx⟩
  | perform r k ih =>
    obtain ⟨es, hadvances, hkept, hleaves, htoken⟩ := respond_spec w h hp.1
    obtain ⟨xs, fs, hends, hrecounts, hadvances', hkept', htokens⟩ :=
      ih (respond w st r).1 (hp.2 _) hkept
    refine ⟨_, _, .step hends, .cons hleaves hrecounts, hadvances.trans hadvances', hkept',
      fun next hx => ?_⟩
    rcases List.mem_cons.1 hx with hx | hx
    · exact hadvances'.cancelled (htoken next hx.symm)
    · exact htokens next hx

end States

end Run
end Walkthrough
