import Walkthrough.Proofs.Calm
import Walkthrough.Proofs.Searches

/-!
# Walkthrough.Proofs.Visibility

The two assertions about what a page shows.

* `opposite_of_stationary`: on a page that stays as it is one of them succeeds and the other fails,
  although one looks for the element again and again and the other only once.
* `NotVisible`: the courses of the assertion that an element is not visible, one for each way in
  which its calls may end.
* `missing_of_assertElementNotVisible`: an element that is gone when it is looked for is not
  visible; one that is gone when it has been found is missing.
-/

namespace Walkthrough
namespace Run

open Browser

/-! ## Courses of the assertion -/

/-- A call that ended. -/
def Exchange.ended (session : Nat) (c : Call) (limit : Duration) (ending : Ending c.Result)
    (spent : Nat) : Exchange :=
  ⟨.call session c limit, ((ending, spent) : Ending c.Result × Nat)⟩

section Courses

variable {α β : Type} {s : Session} {l : Locator} {xs : List Exchange}

theorem ends_attempt_bind {x : Attempt α} {f : α → Attempt β} {e : Except Failure β}
    (h : Ends (x >>= f).run xs e) :
    (∃ g, Ends x.run xs (.error g) ∧ e = .error g) ∨
      ∃ a us vs, Ends x.run us (.ok a) ∧ Ends (f a).run vs e ∧ xs = us ++ vs := by
  obtain ⟨r, us, vs, hr, hrest, rfl⟩ := ends_bind.1 h
  cases r with
  | error g =>
    obtain ⟨rfl, rfl⟩ := ends_pure.1 hrest
    rw [List.append_nil]
    exact .inl ⟨g, hr, rfl⟩
  | ok a => exact .inr ⟨a, us, vs, hr, hrest, rfl⟩

theorem ends_attempt_map {x : Attempt α} {f : α → β} {e : Except Failure β}
    (h : Ends (f <$> x).run xs e) : ∃ r, Ends x.run xs r ∧ e = r.map f := by
  obtain ⟨r, us, vs, hr, hrest, rfl⟩ := ends_bind.1 h
  refine ⟨r, ?_⟩
  cases r with
  | error g =>
    obtain ⟨rfl, rfl⟩ := ends_pure.1 hrest
    rw [List.append_nil]
    exact ⟨hr, rfl⟩
  | ok a =>
    obtain ⟨rfl, rfl⟩ := ends_pure.1 hrest
    rw [List.append_nil]
    exact ⟨hr, rfl⟩

theorem ends_tryCatch {x : Attempt α} {f : Failure → Attempt α} {e : Except Failure α}
    (h : Ends (tryCatch x f).run xs e) :
    (∃ a, Ends x.run xs (.ok a) ∧ e = .ok a) ∨
      ∃ g us vs, Ends x.run us (.error g) ∧ Ends (f g).run vs e ∧ xs = us ++ vs := by
  obtain ⟨r, us, vs, hr, hrest, rfl⟩ := ends_bind.1 h
  cases r with
  | error g => exact .inr ⟨g, us, vs, hr, hrest, rfl⟩
  | ok a =>
    obtain ⟨rfl, rfl⟩ := ends_pure.1 hrest
    rw [List.append_nil]
    exact .inl ⟨a, hr, rfl⟩

theorem ends_within {c : Call} {limit : Duration} {e : Except Failure c.Result}
    (h : Ends (s.within limit c).run xs e) :
    ∃ ending spent, xs = [.ended s.id c limit ending spent] ∧ e = outcome c limit ending := by
  obtain ⟨r, hr, rfl⟩ := ends_map.1 h
  obtain ⟨⟨ending, spent⟩, ys, hend, rfl⟩ := ends_ask_bind.1 hr
  obtain ⟨rfl, rfl⟩ := ends_pure.1 hend
  exact ⟨ending, spent, rfl, rfl⟩

/-- A look for an element, which may not be there. -/
theorem ends_glance {e : Except Failure (Option Handle)}
    (h : Ends (tryCatch (some <$> s.script (.find l)) fun f =>
      match f with
      | .notFound _ => pure none
      | f => throw f : Attempt (Option Handle)).run xs e) :
    (∃ element spent, xs = [.answered s.id (.find l) s.limits.script element spent] ∧
        e = .ok (some element)) ∨
      (∃ what spent, xs = [.missed s.id l s.limits.script what spent] ∧ e = .ok none) ∨
      ∃ ending spent f, xs = [.ended s.id (.find l) s.limits.script ending spent] ∧
        outcome (.find l) s.limits.script ending = .error f ∧ (∀ what, f ≠ .notFound what) ∧
        e = .error f := by
  rcases ends_tryCatch h with ⟨element?, hlook, rfl⟩ | ⟨f, us, vs, hlook, hcatch, rfl⟩
  · obtain ⟨r, hr, hmap⟩ := ends_attempt_map hlook
    obtain ⟨ending, spent, rfl, hending⟩ := ends_within hr
    cases r with
    | error f => cases hmap
    | ok element =>
      obtain rfl := eq_answered_of_outcome hending.symm
      obtain rfl := Except.ok.inj hmap
      exact .inl ⟨element, spent, rfl, rfl⟩
  · obtain ⟨r, hr, hmap⟩ := ends_attempt_map hlook
    obtain ⟨ending, spent, rfl, hending⟩ := ends_within hr
    cases r with
    | ok element => cases hmap
    | error f' =>
      obtain rfl := Except.error.inj hmap
      refine .inr ?_
      cases f with
      | notFound what =>
        obtain rfl := eq_missed_of_outcome hending.symm
        obtain ⟨rfl, rfl⟩ := ends_pure.1 hcatch
        exact .inl ⟨what, spent, rfl, rfl⟩
      | _ =>
        obtain ⟨rfl, rfl⟩ := ends_pure.1 hcatch
        exact .inr ⟨ending, spent, _, rfl, hending.symm, nofun, rfl⟩

/-- The courses of the assertion that an element is not visible. -/
inductive NotVisible (s : Session) (l : Locator) : List Exchange → Except Failure Unit → Prop where
  | uncounted {ending : Ending Nat} {spent : Nat} {f : Failure} :
      outcome (.count l) s.limits.script ending = .error f →
      NotVisible s l [.ended s.id (.count l) s.limits.script ending spent] (.error f)
  | absent {spent : Nat} :
      NotVisible s l [.answered s.id (.count l) s.limits.script (0 : Nat) spent] (.ok ())
  | gone {present spent spent' : Nat} {what : String} : present ≠ 0 →
      NotVisible s l [.answered s.id (.count l) s.limits.script present spent,
        .missed s.id l s.limits.script what spent'] (.ok ())
  | unfound {present spent spent' : Nat} {ending : Ending Handle} {f : Failure} : present ≠ 0 →
      outcome (.find l) s.limits.script ending = .error f → (∀ what, f ≠ .notFound what) →
      NotVisible s l [.answered s.id (.count l) s.limits.script present spent,
        .ended s.id (.find l) s.limits.script ending spent'] (.error f)
  | unchecked {present spent spent' spent'' : Nat} {element : Handle} {ending : Ending Bool}
      {f : Failure} : present ≠ 0 →
      outcome (.isDisplayed element) s.limits.script ending = .error f →
      NotVisible s l [.answered s.id (.count l) s.limits.script present spent,
        .answered s.id (.find l) s.limits.script element spent',
        .ended s.id (.isDisplayed element) s.limits.script ending spent''] (.error f)
  | checked {present spent spent' spent'' : Nat} {element : Handle} {shown : Bool} : present ≠ 0 →
      NotVisible s l [.answered s.id (.count l) s.limits.script present spent,
        .answered s.id (.find l) s.limits.script element spent',
        .answered s.id (.isDisplayed element) s.limits.script shown spent'']
        (if shown then .error (.assertion (.shown l)) else .ok ())

theorem notVisible_of_ends {e : Except Failure Unit} (h : Ends (s.assertNotVisible l).run xs e) :
    NotVisible s l xs e := by
  rcases ends_attempt_bind h with ⟨f, hcount, rfl⟩ | ⟨present, us, vs, hcount, hrest, rfl⟩
  · obtain ⟨ending, spent, rfl, hending⟩ := ends_within hcount
    exact .uncounted hending.symm
  obtain ⟨ending, spent, rfl, hending⟩ := ends_within hcount
  obtain rfl := eq_answered_of_outcome hending.symm
  split at hrest
  · next hpresent =>
    obtain ⟨rfl, rfl⟩ := ends_pure.1 hrest
    obtain rfl := hpresent
    exact .absent
  next hpresent =>
  rcases ends_attempt_bind hrest with ⟨f, hfind, rfl⟩ | ⟨element?, ws, zs, hfind, hcheck, rfl⟩
  · rcases ends_glance hfind with ⟨_, _, _, heq⟩ | ⟨_, _, _, heq⟩ |
      ⟨ending, spent', f, rfl, hending, hf, heq⟩
    · cases heq
    · cases heq
    · cases heq
      exact .unfound hpresent hending hf
  · rcases ends_glance hfind with ⟨element, spent', rfl, heq⟩ | ⟨what, spent', rfl, heq⟩ |
      ⟨_, _, _, _, _, _, heq⟩
    · cases heq
      rcases ends_attempt_bind hcheck with ⟨f, hshown, rfl⟩ | ⟨shown, us, vs, hshown, hend, rfl⟩
      · obtain ⟨ending, spent'', rfl, hending⟩ := ends_within hshown
        exact .unchecked hpresent hending.symm
      · obtain ⟨ending, spent'', rfl, hending⟩ := ends_within hshown
        obtain rfl := eq_answered_of_outcome hending.symm
        have hexpect : vs = [] ∧
            e = if shown = true then .error (.assertion (.shown l)) else .ok () := by
          cases (shown : Bool) with
          | true => exact ends_pure.1 hend
          | false => exact ends_pure.1 hend
        obtain ⟨rfl, rfl⟩ := hexpect
        exact .checked hpresent
    · cases heq
      obtain ⟨rfl, rfl⟩ := ends_pure.1 hcheck
      exact .gone hpresent
    · cases heq

end Courses

/-! ## Pages that stay as they are -/

section Stationary

variable {σ : Type}

/-- The browser always answers a call so, within the limit. -/
def World.Answers (w : World σ) (s : Session) (c : Call) (result : Except Browser.Fault c.Result) :
    Prop :=
  ∀ world, (w.reaction s.id c world).1.result = result ∧
    (w.reaction s.id c world).1.delay ≤ s.limits.script.ceilMillis

/-- A page that stays as it is: the number of elements, the one that is found, and whether it is
shown. -/
structure World.IsStationary (w : World σ) (s : Session) (l : Locator) (count : Nat)
    (found : Except Browser.Fault Handle) (shown : Bool) : Prop where
  counts : w.Answers s (.count l) (.ok count)
  finds : w.Answers s (.find l) found
  shows : ∀ element, found = .ok element → w.Answers s (.isDisplayed element) (.ok shown)
  missing : (∃ what, found = .error (.notFound what)) ↔ count = 0
  present : count ≠ 0 → ∃ element, found = .ok element

variable {w : World σ} {s : Session} {l : Locator} {st : State σ} {count : Nat}
  {found : Except Browser.Fault Handle} {shown : Bool}

theorem World.Answers.ending {c : Call} {result : Except Browser.Fault c.Result}
    (h : w.Answers s c result) (st : State σ) :
    (w.reactionTo st s.id c s.limits.script).ending s.limits.script = .answered result := by
  obtain ⟨hresult, hdelay⟩ := h (st.heed w (.call s.id c s.limits.script)).world
  rw [Reaction.ending, World.reactionTo, hresult, if_pos hdelay]

/-- In the course of a run that is not cancelled, too. -/
theorem World.Answers.of_mem_trace {α : Type} {p : Program α} {c : Call}
    {result : Except Browser.Fault c.Result} (h : w.Answers s c result)
    (hc : (p.run w st).2.cancelled = false) :
    ∀ ending spent, .ended s.id c s.limits.script ending spent ∈ p.trace w st →
      ending = .answered result := by
  intro ending spent hx
  obtain ⟨st', hending⟩ := ending_of_mem_trace hc hx
  exact hending.trans (h.ending st')

theorem World.Answers.run_script {c : Call} {v : c.Result} (h : w.Answers s c (.ok v))
    (hc : ((s.script c).run.run w st).2.cancelled = false) :
    ((s.script c).run.run w st).1 = .ok v := by
  cases ha : respond w st (.call s.id c s.limits.script) with
  | mk a st' =>
    rw [Session.script, run_within ha] at hc ⊢
    rw [answer_of_call ha hc, h.ending]
    rfl

/-- A search on such a page finds what is there, or gives up in the end. -/
theorem World.Answers.run_locate (h : w.Answers s (.find l) found)
    (hc : ((s.locate l).run.run w st).2.cancelled = false) :
    (∀ element, found = .ok element → ((s.locate l).run.run w st).1 = .ok element) ∧
      ∀ what, found = .error (.notFound what) →
        ((s.locate l).run.run w st).1 = .error (s.lost l) := by
  obtain ⟨close, hrounds, hresult, -⟩ := rounds_locate s l w st
  have hanswer : ∀ o ∈ callsOf ((s.locate l).run.occasions w st),
      (respond w o.state (s.looking l).request).1.1 = .answered found := by
    intro o ho
    have hafter := uncancelled_after hc o (List.mem_of_mem_filter ho)
    obtain ⟨st', r⟩ := o
    obtain rfl : r = (s.looking l).request := hrounds.requests _ ho
    exact (congrArg Prod.fst (answer_of_call (Prod.eta _).symm hafter)).trans (h.ending st')
  rcases hrounds.settled_or_exhausted hc with ⟨o, ho, rfl⟩ | rfl
  · have hagain := hrounds.not_again
    rw [hanswer o ho] at hresult hagain
    constructor
    · rintro element rfl
      exact hresult
    · rintro what rfl
      exact absurd ⟨what, rfl⟩ hagain
  · -- The first look already shows that the element is not there.
    obtain ⟨hagain, -⟩ := hrounds.of_exhausted
    obtain ⟨others, hcalls⟩ := hrounds.head
    have hfirst : ⟨st, (s.looking l).request⟩ ∈ callsOf ((s.locate l).run.occasions w st) := by
      rw [hcalls]
      exact List.mem_cons_self
    refine ⟨?_, fun what _ => hresult⟩
    rintro element rfl
    obtain ⟨what, hmiss⟩ := hagain _ hfirst
    cases (hanswer _ hfirst).symm.trans hmiss

theorem World.IsStationary.run_assertVisible (h : w.IsStationary s l count found shown)
    (hc : ((s.assertVisible l).run.run w st).2.cancelled = false) :
    ((s.assertVisible l).run.run w st).1 =
      if count = 0 then .error (.assertion (.absent l))
      else if shown = true then .ok () else .error (.assertion (.hidden l)) := by
  have hlocated : ((s.locate l).run.run w st).2.cancelled = false :=
    uncancelled_of_bind (uncancelled_of_bind hc)
  obtain ⟨hthere, hlost⟩ := h.finds.run_locate hlocated
  cases hlocate : (s.locate l).run.run w st with
  | mk e st' =>
    rw [hlocate] at hthere hlost
    unfold Session.assertVisible at hc ⊢
    by_cases hcount : count = 0
    · obtain ⟨what, rfl⟩ := h.missing.2 hcount
      obtain rfl := hlost what rfl
      rw [if_pos hcount, run_attempt_error (run_tryCatch_error hlocate)]
    · obtain ⟨element, rfl⟩ := h.present hcount
      obtain rfl := hthere element rfl
      rw [if_neg hcount]
      rw [run_attempt_ok (run_tryCatch_ok hlocate)] at hc ⊢
      have hshows := (h.shows element rfl).run_script (uncancelled_of_bind hc)
      cases hscript : (s.script (.isDisplayed element)).run.run w st' with
      | mk e st'' =>
        rw [hscript] at hshows
        obtain rfl := hshows
        refine (congrArg Prod.fst (run_attempt_ok hscript)).trans ?_
        cases shown <;> rfl

theorem World.IsStationary.run_assertNotVisible (h : w.IsStationary s l count found shown)
    (hc : ((s.assertNotVisible l).run.run w st).2.cancelled = false) :
    ((s.assertNotVisible l).run.run w st).1 =
      if count ≠ 0 ∧ shown = true then .error (.assertion (.shown l)) else .ok () := by
  have hcourse := notVisible_of_ends (ends_trace w (s.assertNotVisible l).run st)
  have hcounts := h.counts.of_mem_trace hc
  have hfinds := h.finds.of_mem_trace hc
  have hshows := fun element hfound => (h.shows element hfound).of_mem_trace hc
  generalize (s.assertNotVisible l).run.trace w st = xs at hcourse hcounts hfinds hshows
  generalize ((s.assertNotVisible l).run.run w st).1 = e at hcourse
  cases hcourse with
  | uncounted hending =>
    obtain rfl := hcounts _ _ List.mem_cons_self
    cases hending
  | absent =>
    cases hcounts _ _ List.mem_cons_self
    rfl
  | gone hpresent =>
    cases hcounts _ _ List.mem_cons_self
    cases hfinds _ _ (List.mem_cons_of_mem _ List.mem_cons_self)
    exact absurd (h.missing.1 ⟨_, rfl⟩) hpresent
  | unfound hpresent hending hf =>
    cases hcounts _ _ List.mem_cons_self
    obtain rfl := hfinds _ _ (List.mem_cons_of_mem _ List.mem_cons_self)
    obtain ⟨element, rfl⟩ := h.present hpresent
    cases hending
  | unchecked hpresent hending =>
    cases hfinds _ _ (List.mem_cons_of_mem _ List.mem_cons_self)
    obtain rfl := hshows _ rfl _ _
      (List.mem_cons_of_mem _ (List.mem_cons_of_mem _ List.mem_cons_self))
    cases hending
  | checked hpresent =>
    cases hcounts _ _ List.mem_cons_self
    cases hfinds _ _ (List.mem_cons_of_mem _ List.mem_cons_self)
    cases hshows _ rfl _ _ (List.mem_cons_of_mem _ (List.mem_cons_of_mem _ List.mem_cons_self))
    simp [hpresent]

/-- The element is there and shown, or not there, or hidden, and the assertions tell so: exactly one
of them succeeds, and the other fails as an assertion. -/
theorem opposite_of_stationary (h : w.IsStationary s l count found shown)
    {step step' : Scenario.Step} (hstep : step.action = .assertElementVisible l)
    (hstep' : step'.action = .assertElementNotVisible l) {st st' : State σ}
    (hc : ((s.execute step).run.run w st).2.cancelled = false)
    (hc' : ((s.execute step').run.run w st').2.cancelled = false) :
    (count ≠ 0 ∧ shown = true ∧ ((s.execute step).run.run w st).1 = .ok () ∧
        ((s.execute step').run.run w st').1 = .error (.assertion (.shown l))) ∨
      (count = 0 ∧ ((s.execute step).run.run w st).1 = .error (.assertion (.absent l)) ∧
        ((s.execute step').run.run w st').1 = .ok ()) ∨
      (count ≠ 0 ∧ shown = false ∧
        ((s.execute step).run.run w st).1 = .error (.assertion (.hidden l)) ∧
        ((s.execute step').run.run w st').1 = .ok ()) := by
  obtain ⟨hvisible, hperformed⟩ := run_execute hc
  obtain ⟨hnot, hperformed'⟩ := run_execute hc'
  rw [hstep] at hvisible hperformed
  rw [hstep'] at hnot hperformed'
  have hvisible := hvisible.trans (h.run_assertVisible hperformed)
  have hnot := hnot.trans (h.run_assertNotVisible hperformed')
  rw [hvisible, hnot]
  by_cases hcount : count = 0
  · exact .inr (.inl ⟨hcount, by simp [hcount], by simp [hcount]⟩)
  · cases shown with
    | true => exact .inl ⟨hcount, rfl, by simp [hcount], by simp [hcount]⟩
    | false => exact .inr (.inr ⟨hcount, rfl, by simp [hcount], by simp⟩)

end Stationary

/-! An element is looked for on pages of one answer to each call. -/

namespace Glances

def viewer : Session := ⟨0, ⟨.ofMillis 1000, .ofMillis 600, .ofMillis 1000⟩⟩

def banner : Locator := ⟨.id, "banner"⟩

def element : Handle := ⟨"e"⟩

/-- Every answer takes ten milliseconds. -/
def page (count : Nat) (found : Except Browser.Fault Handle) (shown : Except Browser.Fault Bool) :
    World Unit where
  opening _ world := (.atOnce (.ok ()), world)
  reaction _ c world :=
    match c with
    | .count _ => (⟨.ok count, 10, false⟩, world)
    | .find _ => (⟨found, 10, false⟩, world)
    | .isDisplayed _ => (⟨shown, 10, false⟩, world)
    | _ => (⟨.error (.broken "gone" false), 10, false⟩, world)
  settled _ _ world := world
  storing _ _ world := (.atOnce none, world)
  interrupts _ world := (false, world)
  wall _ := default

theorem isCalm_page (count : Nat) (found : Except Browser.Fault Handle)
    (shown : Except Browser.Fault Bool) : (page count found shown).IsCalm := by
  refine ⟨fun _ _ => rfl, fun _ c _ => ?_, fun _ _ _ => rfl, fun _ _ => rfl⟩
  cases c <;> rfl

def start : State Unit := .initial () none

def visible : Scenario.Step :=
  ⟨1, "s", "", "", "", .assertElementVisible banner, .ofMillis 100, false⟩

def notVisible : Scenario.Step :=
  ⟨2, "s", "", "", "", .assertElementNotVisible banner, .ofMillis 100, false⟩

/-- There is no such element. -/
def empty : World Unit := page 0 (.error (.notFound "banner")) (.ok false)

theorem isStationary_empty :
    empty.IsStationary viewer banner 0 (.error (.notFound "banner")) false := by
  have hprompt : 10 ≤ viewer.limits.script.ceilMillis := by decide
  refine ⟨fun _ => ⟨rfl, hprompt⟩, fun _ => ⟨rfl, hprompt⟩, ?_, ?_, ?_⟩
  · intro element hfound
    cases hfound
  · exact ⟨fun _ => rfl, fun _ => ⟨"banner", rfl⟩⟩
  · intro hcount
    exact absurd rfl hcount

theorem opposite_of_empty :
    empty.IsStationary viewer banner 0 (.error (.notFound "banner")) false ∧
      ((viewer.execute visible).run.run empty start).1 = .error (.assertion (.absent banner)) ∧
      ((viewer.execute notVisible).run.run empty start).1 = .ok () := by
  have hc : ((viewer.execute visible).run.run empty start).2.cancelled = false :=
    (isCalm_run (isCalm_page _ _ _) _ ⟨rfl, rfl⟩).1
  have hc' : ((viewer.execute notVisible).run.run empty start).2.cancelled = false :=
    (isCalm_run (isCalm_page _ _ _) _ ⟨rfl, rfl⟩).1
  refine ⟨isStationary_empty, ?_⟩
  rcases opposite_of_stationary isStationary_empty rfl rfl hc hc' with
    ⟨hcount, -⟩ | ⟨-, h⟩ | ⟨hcount, -⟩
  · exact absurd rfl hcount
  · exact h
  · exact absurd rfl hcount

end Glances

/-! ## Elements that go away -/

/-- What a call was told not to be there. -/
def Exchange.missing? : Exchange → Option String
  | ⟨.call _ _ _, (answer : Ending _ × Nat)⟩ =>
    match answer.1 with
    | .answered (.error (.notFound what)) => some what
    | _ => none
  | _ => none

section Missing

variable {s : Session} {l : Locator} {x : Exchange} {xs : List Exchange}

theorem Exchange.IsMiss.missing? (h : x.IsMiss l) : ∃ what, x.missing? = some what := by
  obtain ⟨session, limit, what, spent, rfl⟩ := h
  exact ⟨what, rfl⟩

theorem Exchange.IsMiss.call? (h : x.IsMiss l) :
    ∃ session, x.request.call? = some (session, .find l) := by
  obtain ⟨session, limit, what, spent, rfl⟩ := h
  exact ⟨session, rfl⟩

theorem missing?_ended {session : Nat} {c : Call} {limit : Duration} {ending : Ending c.Result}
    {spent : Nat} {what : String} :
    (Exchange.ended session c limit ending spent).missing? = some what ↔
      outcome c limit ending = .error (.notFound what) := by
  constructor
  · intro h
    match ending, h with
    | .answered (.error (.notFound _)), h =>
      cases h
      rfl
  · intro h
    obtain rfl := eq_missed_of_outcome h
    rfl

theorem not_isMiss_answered {session : Nat} {c : Call} {limit : Duration} {v : c.Result}
    {spent : Nat} : ¬ (Exchange.answered session c limit v spent).IsMiss l := by
  intro h
  obtain ⟨what, hwhat⟩ := h.missing?
  cases hwhat

theorem not_isMiss_ended {session : Nat} {c : Call} {limit : Duration} {ending : Ending c.Result}
    {spent : Nat} (hc : c ≠ .find l) :
    ¬ (Exchange.ended session c limit ending spent).IsMiss l := by
  intro h
  obtain ⟨session', hcall⟩ := h.call?
  exact hc (Prod.mk.inj (Option.some.inj hcall)).2

/-- A failure of the last call is the failure of the assertion. -/
theorem missing_of_ended {session : Nat} {c : Call} {limit : Duration} {ending : Ending c.Result}
    {spent : Nat} {f : Failure} (hlast : lastCall? xs = some (.ended session c limit ending spent))
    (hmiss : ¬ (Exchange.ended session c limit ending spent).IsMiss l)
    (hending : outcome c limit ending = .error f) (what : String) :
    (.error f : Except Failure Unit) = .error (.notFound what) ↔
      ∃ x, lastCall? xs = some x ∧ ¬ x.IsMiss l ∧ x.missing? = some what := by
  constructor
  · intro heq
    obtain rfl := Except.error.inj heq
    exact ⟨_, hlast, hmiss, missing?_ended.2 hending⟩
  · rintro ⟨x, hx, -, hwhat⟩
    obtain rfl := Option.some.inj (hlast.symm.trans hx)
    have hfailure := hending.symm.trans (missing?_ended.1 hwhat)
    rw [Except.error.inj hfailure]

/-- An element that is gone when it is looked for is not visible. -/
theorem NotVisible.eq_ok_of_isMiss {e : Except Failure Unit} (h : NotVisible s l xs e) (hx : x ∈ xs)
    (hmiss : x.IsMiss l) : e = .ok () := by
  cases h with
  | uncounted hending =>
    obtain rfl := List.mem_singleton.1 hx
    exact absurd hmiss (not_isMiss_ended nofun)
  | absent => rfl
  | gone hpresent => rfl
  | unfound hpresent hending hf =>
    simp only [List.mem_cons, List.not_mem_nil, or_false] at hx
    rcases hx with rfl | rfl
    · exact absurd hmiss not_isMiss_answered
    · obtain ⟨what, hwhat⟩ := hmiss.missing?
      have hfailure := hending.symm.trans (missing?_ended.1 hwhat)
      exact absurd (Except.error.inj hfailure) (hf what)
  | unchecked hpresent hending =>
    simp only [List.mem_cons, List.not_mem_nil, or_false] at hx
    rcases hx with rfl | rfl | rfl
    · exact absurd hmiss not_isMiss_answered
    · exact absurd hmiss not_isMiss_answered
    · exact absurd hmiss (not_isMiss_ended nofun)
  | checked hpresent =>
    simp only [List.mem_cons, List.not_mem_nil, or_false] at hx
    rcases hx with rfl | rfl | rfl <;> exact absurd hmiss not_isMiss_answered

/-- The assertion fails with an element that is not there just if its last call, which is no look
for it, fails so. -/
theorem NotVisible.missing_iff {e : Except Failure Unit} (h : NotVisible s l xs e) (what : String) :
    e = .error (.notFound what) ↔
      ∃ x, lastCall? xs = some x ∧ ¬ x.IsMiss l ∧ x.missing? = some what := by
  cases h with
  | uncounted hending =>
    refine missing_of_ended rfl ?_ hending what
    exact not_isMiss_ended nofun
  | absent =>
    refine ⟨nofun, ?_⟩
    rintro ⟨x, hx, -, hwhat⟩
    obtain rfl := Option.some.inj hx
    cases hwhat
  | gone hpresent =>
    refine ⟨nofun, ?_⟩
    rintro ⟨x, hx, hmiss, -⟩
    obtain rfl := Option.some.inj hx
    exact absurd ⟨_, _, _, _, rfl⟩ hmiss
  | unfound hpresent hending hf =>
    refine ⟨fun heq => absurd (Except.error.inj heq) (hf what), ?_⟩
    rintro ⟨x, hx, -, hwhat⟩
    obtain rfl := Option.some.inj hx
    have hfailure := hending.symm.trans (missing?_ended.1 hwhat)
    exact absurd (Except.error.inj hfailure) (hf what)
  | unchecked hpresent hending =>
    refine missing_of_ended rfl ?_ hending what
    exact not_isMiss_ended nofun
  | checked hpresent =>
    constructor
    · intro heq
      split at heq <;> cases heq
    · rintro ⟨x, hx, -, hwhat⟩
      obtain rfl := Option.some.inj hx
      cases hwhat

theorem lastCall?_append_rests {rests : List Exchange}
    (hrests : ∀ x ∈ rests, x.request.call? = none) : lastCall? (xs ++ rests) = lastCall? xs := by
  have hnone : rests.filter (·.request.call?.isSome) = [] :=
    List.filter_eq_nil_iff.2 fun x hx => by rw [hrests x hx]; exact Bool.false_ne_true
  rw [lastCall?, lastCall?, List.filter_append, hnone, List.append_nil]

/-- An element that is counted and gone when it is looked for is not visible. If the assertion fails
with an element that is not there, then because it was told so when it counted, or when it asked
whether the element that it had found is shown. -/
theorem missing_of_assertElementNotVisible {σ : Type} {w : World σ} {st : State σ}
    {step : Scenario.Step} (hstep : step.action = .assertElementNotVisible l)
    (hc : ((s.execute step).run.run w st).2.cancelled = false) :
    ((∃ x ∈ (s.execute step).run.trace w st, x.IsMiss l) →
        ((s.execute step).run.run w st).1 = .ok ()) ∧
      ∀ what, ((s.execute step).run.run w st).1 = .error (.notFound what) ↔
        ∃ x, lastCall? ((s.execute step).run.trace w st) = some x ∧ ¬ x.IsMiss l ∧
          x.missing? = some what := by
  obtain ⟨hresult, -⟩ := run_execute hc
  obtain ⟨rests, htrace, hrests⟩ := trace_execute s step w st
  have hcourse := ends_trace w (s.perform step.action).run st
  rw [← hresult, hstep] at hcourse
  rw [hstep] at htrace
  have hnot := notVisible_of_ends hcourse
  rw [htrace, lastCall?_append_rests hrests]
  refine ⟨?_, hnot.missing_iff⟩
  rintro ⟨x, hx, hmiss⟩
  rcases List.mem_append.1 hx with hx | hx
  · exact hnot.eq_ok_of_isMiss hx hmiss
  · obtain ⟨session, hcall⟩ := hmiss.call?
    cases (hrests x hx).symm.trans hcall

end Missing

namespace Glances

/-- The element is gone when it is looked for. -/
def fleeting : World Unit := page 1 (.error (.notFound "banner")) (.ok true)

def glance : Exchange := .missed 0 banner viewer.limits.script "banner" 10

theorem trace_fleeting : (viewer.execute notVisible).run.trace fleeting start =
    [.answered 0 (.count banner) viewer.limits.script (1 : Nat) 10, glance,
      ⟨.rest notVisible.waitTime, (some 0 : Option Nat)⟩] := by cbv

theorem ok_of_fleeting :
    ((viewer.execute notVisible).run.run fleeting start).2.cancelled = false ∧
      ((viewer.execute notVisible).run.run fleeting start).1 = .ok () := by
  have hc : ((viewer.execute notVisible).run.run fleeting start).2.cancelled = false := by cbv
  have hmiss : glance.IsMiss banner := ⟨0, viewer.limits.script, "banner", 10, rfl⟩
  refine ⟨hc, (missing_of_assertElementNotVisible rfl hc).1 ⟨glance, ?_, hmiss⟩⟩
  rw [trace_fleeting]
  exact List.mem_cons_of_mem _ List.mem_cons_self

/-- The element is gone when it has been found. -/
def stale : World Unit := page 1 (.ok element) (.error (.notFound "stale element reference"))

/-- Then it is not visible, but the assertion fails, and not as an assertion. -/
theorem missing_of_stale :
    ((viewer.execute notVisible).run.run stale start).2.cancelled = false ∧
      (viewer.execute notVisible).run.trace stale start =
        [.answered 0 (.count banner) viewer.limits.script (1 : Nat) 10,
          .answered 0 (.find banner) viewer.limits.script element 10,
          .ended 0 (.isDisplayed element) viewer.limits.script
            (.answered (.error (.notFound "stale element reference"))) 10] ∧
      ((viewer.execute notVisible).run.run stale start).1 =
        .error (.notFound "stale element reference") :=
  ⟨by cbv, by cbv, by cbv⟩

end Glances

end Run
end Walkthrough
