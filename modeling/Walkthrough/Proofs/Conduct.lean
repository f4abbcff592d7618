import Mathlib.Data.List.Induction
import Walkthrough.Proofs.Guards
import Walkthrough.Proofs.Recordings

/-!
# Walkthrough.Proofs.Conduct

What one attempt of a step does on the page, for every action and whatever the browser and the clock
answer.

A `conduct` is the rule of an action: after a call that failed nothing more is asked of the browser,
unless it is to look again for an element that was not there; and the page is changed only by the
calls of the action in their order, on the element that was found.

* `adheres_locateWithin`, `adheres_readWithin`: the loops keep to it.
* `adheres_perform`: so does every action, which fails in no other way than its kind may.
* `conduct_of_execute`: the courses of an attempt.
-/

namespace Walkthrough

/-- Does the call change the page or an element of it? -/
def Browser.Call.changesPage : Browser.Call → Bool
  | .navigate _ | .click _ | .doubleClick _ | .contextClick _ | .hover _ | .selectOption _ _
  | .clear _ | .typeText _ _ | .refresh | .back | .forward => true
  | _ => false

namespace Action

open Browser

/-- The calls with which an action changes the page, in order; those on an element are made on the
one that was found. -/
def changes : Action → Handle → List Call
  | .navigate url, _ => [.navigate url]
  | .inputText _ text, h => [.clear h, .typeText h text]
  | .click _, h => [.click h]
  | .doubleClick _, h => [.doubleClick h]
  | .rightClick _, h => [.contextClick h]
  | .hover _, h => [.hover h]
  | .clearText _, h => [.clear h]
  | .selectDropdown _ option, h => [.selectOption h option]
  | .refresh, _ => [.refresh]
  | .back, _ => [.back]
  | .forward, _ => [.forward]
  | _, _ => []

theorem nodup_changes (a : Action) (h : Handle) : (a.changes h).Nodup := by
  cases a <;> simp [changes]

def isAssertion : Action → Bool
  | .assertElementText _ _ | .assertElementCount _ _ | .assertElementVisible _
  | .assertElementNotVisible _ | .assertElementAttribute _ _ _ | .assertUrlContains _
  | .assertTitleContains _ => true
  | _ => false

/-- In which ways an action may fail. What is wrong with files and settings is found before, and a
browser that ran out of time itself counts as one that did not answer. -/
def MayFail (a : Action) : Failure → Prop
  | .notFound _ | .timeout _ _ | .browser _ _ | .cancelled => True
  | .assertion _ => a.isAssertion = true
  | .config _ | .unresolved _ _ | .target _ _ | .browserTimeout _ => False

end Action

namespace Run

open Browser

/-! ## Calls that were made -/

namespace Exchange

/-- The call succeeded. -/
def answered (session : Nat) (c : Call) (limit : Duration) (v : c.Result) (spent : Nat) :
    Exchange :=
  ⟨.call session c limit, ((.answered (.ok v), spent) : Ending c.Result × Nat)⟩

/-- The element is not there. -/
def missed (session : Nat) (l : Locator) (limit : Duration) (what : String) (spent : Nat) :
    Exchange :=
  ⟨.call session (.find l) limit,
    ((.answered (.error (.notFound what)), spent) : Ending Handle × Nat)⟩

def IsMiss (x : Exchange) (l : Locator) : Prop :=
  ∃ session limit what spent, x = missed session l limit what spent

def succeeds : Exchange → Bool
  | ⟨.call _ _ _, (answer : Ending _ × Nat)⟩ => answer.1.succeeds
  | ⟨.shielded _ _ _, (answer : Option (Except Browser.Fault _))⟩ => (given? answer).isSome
  | _ => true

/-- The call of an exchange, if it changes the page. -/
def change? (x : Exchange) : Option Call :=
  match x.request.call? with
  | some (_, c) => if c.changesPage then some c else none
  | none => none

end Exchange

/-- The calls of a course that change the page. -/
def changesOf (xs : List Exchange) : List Call := xs.filterMap Exchange.change?

def lastCall? (xs : List Exchange) : Option Exchange :=
  (xs.filter (·.request.call?.isSome)).getLast?

/-- The element was looked for and is this one. -/
def Found (session : Nat) (l : Locator) (h : Handle) (xs : List Exchange) : Prop :=
  ∃ limit spent, Exchange.answered session (.find l) limit h spent ∈ xs

section Calls

variable {xs ys : List Exchange} {s : Nat} {c : Call} {limit span : Duration}

@[simp] theorem changesOf_append : changesOf (xs ++ ys) = changesOf xs ++ changesOf ys :=
  List.filterMap_append

theorem changesOf_call (a : Answer (.call s c limit)) :
    changesOf [⟨.call s c limit, a⟩] = if c.changesPage then [c] else [] := by
  simp only [changesOf, List.filterMap_cons, Exchange.change?, Request.call?, List.filterMap_nil]
  cases c.changesPage <;> rfl

theorem lastCall?_rest (a : Answer (.rest span)) :
    lastCall? (xs ++ [⟨.rest span, a⟩]) = lastCall? xs := by
  simp [lastCall?, Request.call?]

theorem lastCall?_call (a : Answer (.call s c limit)) :
    lastCall? (xs ++ [⟨.call s c limit, a⟩]) = some ⟨.call s c limit, a⟩ := by
  simp [lastCall?, Request.call?]

/-- An action works on no other element than its own. -/
theorem Found.of_locator {a : Action} {l : Locator} {h : Handle} (hfound : Found s l h xs)
    (hl : a.locator? = some l) : ∀ l', a.locator? = some l' → Found s l' h xs := by
  intro l' hl'
  obtain rfl := Option.some.inj (hl.symm.trans hl')
  exact hfound

end Calls

/-! ## The rule -/

/-- A call that an action may make after past exchanges. -/
structure IsNext (session : Nat) (a : Action) (past : List Exchange) (c : Call) : Prop where
  /-- Nothing follows a call that failed, but another look for what was not there. -/
  follows : ∀ x, lastCall? past = some x → x.succeeds = true ∨ ∃ l, x.IsMiss l ∧ c = .find l
  /-- The page is changed by the next call of the action, on the element that was found. -/
  changes : c.changesPage = true → ∃ h, changesOf past ++ [c] <+: a.changes h ∧
    ∀ l, a.locator? = some l → Found session l h past
  /-- And the changes before it were made. -/
  changed : c.changesPage = true → ∀ x ∈ past, x.change?.isSome = true → x.succeeds = true

def conduct (session : Nat) (a : Action) : Rule
  | past, .call s c _ => s = session ∧ IsNext session a past c
  | _, .rest _ => True
  | _, _ => False

/-- How things stand after past exchanges: of the last call something is known, and the page was
changed by some calls, each of which succeeded. -/
structure Stands (last : Exchange → Prop) (changes : List Call) (past : List Exchange) : Prop where
  last : ∀ x, lastCall? past = some x → last x
  changes : changesOf past = changes
  changed : ∀ x ∈ past, x.change?.isSome = true → x.succeeds = true

/-- The call succeeded, or it was a look for an element that is not there. -/
def IsSeeking (l : Locator) (x : Exchange) : Prop := x.succeeds = true ∨ x.IsMiss l

section Standing

variable {last : Exchange → Prop} {changes : List Call} {past : List Exchange} {s : Nat} {c : Call}
  {limit span : Duration}

theorem stands_nil (last : Exchange → Prop) : Stands last [] [] := by
  refine ⟨fun x hx => ?_, rfl, List.forall_mem_nil _⟩
  have hnone : lastCall? [] = none := rfl
  rw [hnone] at hx
  cases hx

theorem Stands.mono {last' : Exchange → Prop} (h : Stands last changes past)
    (hlast : ∀ x, last x → last' x) : Stands last' changes past :=
  ⟨fun x hx => hlast x (h.last x hx), h.changes, h.changed⟩

theorem Stands.rest (h : Stands last changes past) (a : Answer (.rest span)) :
    Stands last changes (past ++ [⟨.rest span, a⟩]) := by
  refine ⟨fun x hx => h.last x ?_, ?_, ?_⟩
  · rwa [lastCall?_rest] at hx
  · rw [changesOf_append, h.changes]
    exact List.append_nil changes
  · refine List.forall_mem_append.2 ⟨h.changed, List.forall_mem_singleton.2 fun hsome => ?_⟩
    exact absurd hsome Bool.false_ne_true

theorem Stands.call {last' : Exchange → Prop} (h : Stands last changes past)
    {a : Answer (.call s c limit)} (hlast : last' ⟨.call s c limit, a⟩)
    (hchanged : c.changesPage = true → Exchange.succeeds ⟨.call s c limit, a⟩ = true) :
    Stands last' (changes ++ if c.changesPage then [c] else [])
      (past ++ [⟨.call s c limit, a⟩]) := by
  refine ⟨?_, ?_, ?_⟩
  · intro x hx
    rw [lastCall?_call] at hx
    obtain rfl := Option.some.inj hx
    exact hlast
  · rw [changesOf_append, h.changes, changesOf_call]
  · refine List.forall_mem_append.2 ⟨h.changed, List.forall_mem_singleton.2 fun hsome => ?_⟩
    refine hchanged ?_
    simpa [Exchange.change?, Request.call?] using hsome

theorem Stands.look {last' : Exchange → Prop} (h : Stands last changes past)
    (hc : c.changesPage = false) {a : Answer (.call s c limit)}
    (hlast : last' ⟨.call s c limit, a⟩) :
    Stands last' changes (past ++ [⟨.call s c limit, a⟩]) := by
  have hnow := h.call hlast fun hchanges => Bool.noConfusion (hc.symm.trans hchanges)
  rwa [hc, if_neg Bool.false_ne_true, List.append_nil] at hnow

theorem Stands.change (h : Stands last changes past) (hc : c.changesPage = true)
    {a : Answer (.call s c limit)} (hsucceeds : Exchange.succeeds ⟨.call s c limit, a⟩ = true) :
    Stands (·.succeeds = true) (changes ++ [c]) (past ++ [⟨.call s c limit, a⟩]) := by
  have hnow : Stands (·.succeeds = true) (changes ++ if c.changesPage then [c] else [])
      (past ++ [⟨.call s c limit, a⟩]) := h.call hsucceeds fun _ => hsucceeds
  rwa [hc, if_pos rfl] at hnow

/-- After a call that succeeded every other call may be made that changes nothing. -/
theorem Stands.isNext {session : Nat} {a : Action} (h : Stands (·.succeeds = true) changes past)
    (hc : c.changesPage = false) : IsNext session a past c := by
  refine ⟨fun x hx => .inl (h.last x hx), fun hchange => ?_, fun hchange => ?_⟩ <;>
    rw [hc] at hchange <;> cases hchange

end Standing

/-! ## Calls with a limit -/

section Outcomes

variable {α : Type} {c : Call} {limit : Duration} {e : Ending α}

theorem eq_answered_of_outcome {v : α} (h : outcome c limit e = .ok v) : e = .answered (.ok v) := by
  match e, h with
  | .answered (.ok _), h =>
    obtain rfl := Except.ok.inj h
    rfl

theorem eq_missed_of_outcome {what : String} (h : outcome c limit e = .error (.notFound what)) :
    e = .answered (.error (.notFound what)) := by
  match e, h with
  | .answered (.error (.notFound _)), h =>
    cases h
    rfl

/-- The failure of a call is none that only assertions or files have. -/
theorem mayFail_of_outcome (a : Action) {f : Failure} (h : outcome c limit e = .error f) :
    a.MayFail f := by
  match e, h with
  | .answered (.error (.notFound _)), h => cases h; trivial
  | .answered (.error (.timedOut _)), h => cases h; trivial
  | .answered (.error (.broken _ _)), h => cases h; trivial
  | .late, h => cases h; trivial
  | .cancelled, h => cases h; trivial

end Outcomes

namespace Session

section Conduct

variable (s : Session) {a : Action} {past : List Exchange} {changes : List Call} {c : Call}

theorem adheres_timed (limit : Duration) (hnext : IsNext s.id a past c) :
    (s.timed c limit).Adheres (conduct s.id a) past fun r now =>
      ∃ answer : Ending c.Result × Nat,
        now = past ++ [⟨.call s.id c limit, answer⟩] ∧ r.1 = outcome c limit answer.1 :=
  adheres_bind (adheres_ask ⟨rfl, hnext⟩ fun answer => ⟨answer, rfl, rfl⟩)

theorem adheres_within (limit : Duration) (hnext : IsNext s.id a past c) :
    Attempt.Adheres (conduct s.id a) (s.within limit c) past
      (fun v now => ∃ spent, now = past ++ [.answered s.id c limit v spent]) a.MayFail := by
  refine adheres_map (Program.Adheres.mono (s.adheres_timed limit hnext) ?_)
  rintro ⟨e, nanos⟩ now ⟨⟨ending, spent⟩, rfl, houtcome⟩
  cases e with
  | ok v =>
    obtain rfl := eq_answered_of_outcome houtcome.symm
    exact ⟨spent, rfl⟩
  | error f => exact mayFail_of_outcome a houtcome.symm

/-- A call that changes nothing. -/
theorem adheres_look (limit : Duration) (hstands : Stands (·.succeeds = true) changes past)
    (hc : c.changesPage = false) :
    Attempt.Adheres (conduct s.id a) (s.within limit c) past
      (fun _ now => Stands (·.succeeds = true) changes now) a.MayFail := by
  refine (s.adheres_within limit (hstands.isNext hc)).mono ?_
  rintro v now ⟨spent, rfl⟩
  exact hstands.look hc rfl

/-- The next change of the page. -/
theorem adheres_change (limit : Duration) (h : Handle)
    (hstands : Stands (·.succeeds = true) changes past) (hc : c.changesPage = true)
    (hchanges : changes ++ [c] <+: a.changes h)
    (hfound : ∀ l, a.locator? = some l → Found s.id l h past) :
    Attempt.Adheres (conduct s.id a) (s.within limit c) past
      (fun _ now => Stands (·.succeeds = true) (changes ++ [c]) now ∧
        ∀ l, a.locator? = some l → Found s.id l h now) a.MayFail := by
  have hnext : IsNext s.id a past c := by
    refine ⟨fun x hx => .inl (hstands.last x hx), fun _ => ⟨h, ?_, hfound⟩, fun _ => hstands.changed⟩
    rwa [hstands.changes]
  refine (s.adheres_within limit hnext).mono ?_
  rintro v now ⟨spent, rfl⟩
  refine ⟨hstands.change hc rfl, fun l hl => ?_⟩
  obtain ⟨limit', spent', hmem⟩ := hfound l hl
  exact ⟨limit', spent', List.mem_append_left _ hmem⟩

/-! ## Loops -/

theorem ends_found {l : Locator} (h : Handle) (remaining millis : Nat) :
    Ends (s.locateWithin l remaining) [.answered s.id (.find l) s.limits.script h millis]
      (.ok (h, remaining - nanosOfMillis millis)) := by
  have hcall : Ends (s.timed (.find l) s.limits.script)
      [.answered s.id (.find l) s.limits.script h millis] (.ok h, nanosOfMillis millis) :=
    .step (.refl _)
  rw [locateWithin]
  exact ends_bind.2 ⟨_, _, [], hcall, .refl _, rfl⟩

theorem ends_missed {l : Locator} {what : String} {remaining millis late : Nat}
    {xs : List Exchange} {e : Except Failure (Handle × Nat)}
    (hleft : remaining - nanosOfMillis millis ≠ 0)
    (hrest : Ends (s.locateWithin l (afterNap (remaining - nanosOfMillis millis) late)) xs e) :
    Ends (s.locateWithin l remaining)
      (.missed s.id l s.limits.script what millis ::
        ⟨.rest ⟨min pollInterval.nanos (remaining - nanosOfMillis millis)⟩,
          (some late : Option Nat)⟩ :: xs) e := by
  have hcall : Ends (s.timed (.find l) s.limits.script)
      [.missed s.id l s.limits.script what millis]
      (.error (.notFound what), nanosOfMillis millis) :=
    .step (.refl _)
  rw [locateWithin]
  refine ends_bind.2 ⟨_, _, _, hcall, ?_, rfl⟩
  dsimp only
  rw [dif_neg hleft]
  exact ends_ask_bind.2 ⟨some late, xs, hrest, rfl⟩

/-- As long as the element is not there, nothing but looks for it and rests is asked. -/
theorem adheres_locateWithin (l : Locator) (remaining : Nat)
    (hstands : Stands (IsSeeking l) changes past) :
    (s.locateWithin l remaining).Adheres (conduct s.id a) past (outcomeIs
      (fun r now => Stands (·.succeeds = true) changes now ∧ Found s.id l r.1 now) a.MayFail) := by
  induction remaining using Nat.strongRecOn generalizing past with
  | ind remaining ih =>
    have hnext : IsNext s.id a past (.find l) := by
      have hc : ¬ (Call.find l).changesPage = true := Bool.false_ne_true
      exact ⟨fun x hx => (hstands.last x hx).imp_right fun hmiss => ⟨l, hmiss, rfl⟩,
        fun hchanges => absurd hchanges hc, fun hchanges => absurd hchanges hc⟩
    rw [locateWithin]
    refine adheres_bind (Program.Adheres.mono (s.adheres_timed s.limits.script hnext) ?_)
    rintro ⟨e, nanos⟩ now ⟨⟨ending, spent⟩, rfl, houtcome⟩
    cases e with
    | ok h =>
      obtain rfl := eq_answered_of_outcome houtcome.symm
      exact ⟨hstands.look rfl rfl, s.limits.script, spent,
        List.mem_append_right _ List.mem_cons_self⟩
    | error f =>
      cases f with
      | notFound what =>
        obtain rfl := eq_missed_of_outcome houtcome.symm
        dsimp only
        split
        · trivial
        · next hleft =>
          refine adheres_bind (adheres_ask trivial ?_)
          intro answer
          cases answer with
          | none => trivial
          | some late =>
            have hlt : afterNap (remaining - nanos) late < remaining :=
              Nat.lt_of_lt_of_le (afterNap_lt hleft late) (Nat.sub_le _ _)
            have hmiss : IsSeeking l (.missed s.id l s.limits.script what spent) :=
              .inr ⟨_, _, _, _, rfl⟩
            exact ih _ hlt ((hstands.look rfl hmiss).rest _)
      | _ => exact mayFail_of_outcome a houtcome.symm

theorem adheres_locate (l : Locator) (hstands : Stands (·.succeeds = true) changes past) :
    Attempt.Adheres (conduct s.id a) (s.locate l) past
      (fun h now => Stands (·.succeeds = true) changes now ∧ Found s.id l h now) a.MayFail := by
  have hseeks : Stands (IsSeeking l) changes past := hstands.mono fun _ => .inl
  refine adheres_bind (Program.Adheres.mono (s.adheres_locateWithin l _ hseeks) ?_)
  intro e now he
  cases e with
  | ok found => exact he
  | error f => exact he

/-- A text that is not there yet is read again, as long as reading succeeds. -/
theorem adheres_readWithin (l : Locator) (text : String) (h : Handle) (remaining : Nat)
    (hstands : Stands (·.succeeds = true) changes past) :
    (s.readWithin l text h remaining).Adheres (conduct s.id a) past
      (outcomeIs (fun _ _ => True) a.MayFail) := by
  induction remaining using Nat.strongRecOn generalizing past with
  | ind remaining ih =>
    rw [readWithin]
    refine adheres_bind (Program.Adheres.mono (s.adheres_timed s.limits.script
      (hstands.isNext rfl)) ?_)
    rintro ⟨e, nanos⟩ now ⟨⟨ending, spent⟩, rfl, houtcome⟩
    cases e with
    | error f => exact mayFail_of_outcome a houtcome.symm
    | ok actual =>
      obtain rfl := eq_answered_of_outcome houtcome.symm
      dsimp only
      split
      · trivial
      · split
        · trivial
        · next hleft =>
          refine adheres_bind (adheres_ask trivial ?_)
          intro answer
          cases answer with
          | none => trivial
          | some late =>
            have hlt : afterNap (remaining - nanos) late < remaining :=
              Nat.lt_of_lt_of_le (afterNap_lt hleft late) (Nat.sub_le _ _)
            have hread : Stands (·.succeeds = true) changes
                (past ++ [.answered s.id (.textOf h) s.limits.script actual spent]) :=
              hstands.look rfl rfl
            exact ih _ hlt (hread.rest _)

theorem adheres_awaitText (l : Locator) (text : String) :
    Attempt.Adheres (conduct s.id a) (s.awaitText l text) [] (fun _ _ => True) a.MayFail := by
  refine adheres_bind (Program.Adheres.mono (s.adheres_locateWithin l _ (stands_nil _)) ?_)
  intro e now he
  cases e with
  | error f => exact he
  | ok found =>
    obtain ⟨h, left⟩ := found
    exact s.adheres_readWithin l text h left he.1

/-! ## Actions -/

theorem adheres_expect {holds : Bool} {finding : Failure.Finding} (ha : a.isAssertion = true) :
    Attempt.Adheres (conduct s.id a) (expect holds finding) past (fun _ _ => True) a.MayFail := by
  unfold expect
  split
  · exact attempt_pure trivial
  · exact attempt_throw ha

theorem adheres_pause (session : Nat) (span : Duration) :
    Attempt.Adheres (conduct session a) (pause span) past (fun _ _ => True) a.MayFail := by
  refine adheres_bind (adheres_ask trivial ?_)
  intro answer
  cases answer <;> trivial

/-- An action on an element begins by looking for it. -/
theorem adheres_located {α : Type} {l : Locator} {f : Handle → Attempt α}
    {good : α → List Exchange → Prop}
    (hf : ∀ h now, Stands (·.succeeds = true) [] now → Found s.id l h now →
      Attempt.Adheres (conduct s.id a) (f h) now good a.MayFail) :
    Attempt.Adheres (conduct s.id a) (s.locate l >>= f) [] good a.MayFail :=
  attempt_bind (s.adheres_locate l (stands_nil _)) fun h now hnow => hf h now hnow.1 hnow.2

/-- An assertion looks at the page and judges what it sees. -/
theorem adheres_judged {judge : c.Result → Attempt Unit}
    (hstands : Stands (·.succeeds = true) changes past) (hc : c.changesPage = false)
    (hjudge : ∀ v now, Stands (·.succeeds = true) changes now →
      Attempt.Adheres (conduct s.id a) (judge v) now (fun _ _ => True) a.MayFail) :
    Attempt.Adheres (conduct s.id a) (s.script c >>= judge) past (fun _ _ => True) a.MayFail :=
  attempt_bind (s.adheres_look _ hstands hc) hjudge

/-- The only change of the page. -/
theorem adheres_only (limit : Duration) (h : Handle) (hstands : Stands (·.succeeds = true) [] past)
    (hc : c.changesPage = true) (hchanges : a.changes h = [c])
    (hfound : ∀ l, a.locator? = some l → Found s.id l h past) :
    Attempt.Adheres (conduct s.id a) (s.within limit c) past (fun _ _ => True) a.MayFail := by
  have hprefix : [] ++ [c] <+: a.changes h := hchanges ▸ List.prefix_rfl
  exact (s.adheres_change limit h hstands hc hprefix hfound).mono fun _ _ _ => trivial

end Conduct

section Perform

variable (s : Session) (l : Locator)

theorem adheres_assertVisible :
    Attempt.Adheres (conduct s.id (.assertElementVisible l)) (s.assertVisible l) []
      (fun _ _ => True) (Action.MayFail (.assertElementVisible l)) := by
  refine attempt_bind (attempt_tryCatch (s.adheres_locate l (stands_nil _)) ?_) ?_
  · intro f now hf
    cases f with
    | notFound what => exact attempt_throw rfl
    | _ => exact attempt_throw hf
  · intro h now hnow
    exact s.adheres_judged hnow.1 rfl fun _ _ _ => s.adheres_expect rfl

theorem adheres_assertNotVisible :
    Attempt.Adheres (conduct s.id (.assertElementNotVisible l)) (s.assertNotVisible l) []
      (fun _ _ => True) (Action.MayFail (.assertElementNotVisible l)) := by
  refine s.adheres_judged (stands_nil _) rfl fun present now hnow => ?_
  split
  · exact attempt_pure trivial
  · -- One that has gone away is not looked at any more.
    have hlook : Attempt.Adheres (conduct s.id (.assertElementNotVisible l)) (s.script (.find l)) now
        (fun h later => (some h).isSome = true → Stands (·.succeeds = true) [] later)
        (Action.MayFail (.assertElementNotVisible l)) :=
      (s.adheres_look _ hnow rfl).mono fun _ _ h _ => h
    refine attempt_bind (m := fun h? later => h?.isSome = true → Stands (·.succeeds = true) [] later)
      (attempt_tryCatch (attempt_map hlook) ?_) fun h? later hlater => ?_
    · intro f later hf
      cases f with
      | notFound what => exact attempt_pure fun hsome => absurd hsome Bool.false_ne_true
      | _ => exact attempt_throw hf
    cases h? with
    | none => exact attempt_pure trivial
    | some h => exact s.adheres_judged (hlater rfl) rfl fun _ _ _ => s.adheres_expect rfl

theorem adheres_perform (a : Action) :
    Attempt.Adheres (conduct s.id a) (s.perform a) [] (fun _ _ => True) a.MayFail := by
  have hpage {c : Call} (hc : c.changesPage = true) (hchanges : a.changes ⟨""⟩ = [c])
      (hl : a.locator? = none) : Attempt.Adheres (conduct s.id a) (s.load c) [] (fun _ _ => True)
        a.MayFail :=
    s.adheres_only _ ⟨""⟩ (stands_nil _) hc hchanges fun l hl' => nomatch hl.symm.trans hl'
  cases a with
  | navigate _ | refresh | back | forward => exact hpage rfl rfl rfl
  | wait span => exact adheres_pause s.id span
  | click l | doubleClick l | rightClick l | hover l | clearText l | selectDropdown l _ =>
    exact s.adheres_located fun h _ hstands hfound =>
      s.adheres_only _ h hstands rfl rfl (hfound.of_locator rfl)
  | inputText l text =>
    refine s.adheres_located fun h _ hstands hfound => ?_
    have hclear : [] ++ [.clear h] <+: (Action.inputText l text).changes h :=
      ⟨[.typeText h text], rfl⟩
    refine attempt_bind (s.adheres_change _ h hstands rfl hclear (hfound.of_locator rfl)) ?_
    intro _ now hnow
    -- The text is typed where the old one has been cleared.
    exact (s.adheres_change _ h hnow.1 rfl List.prefix_rfl hnow.2).mono fun _ _ _ => trivial
  | assertElementText l _ | assertElementAttribute l _ _ =>
    exact s.adheres_located fun _ _ hstands _ =>
      s.adheres_judged hstands rfl fun _ _ _ => s.adheres_expect rfl
  | assertElementCount l _ | assertUrlContains _ | assertTitleContains _ =>
    exact s.adheres_judged (stands_nil _) rfl fun _ _ _ => s.adheres_expect rfl
  | assertElementVisible l => exact s.adheres_assertVisible l
  | assertElementNotVisible l => exact s.adheres_assertNotVisible l
  | waitForElement l => exact s.adheres_located fun _ _ _ _ => attempt_pure trivial
  | waitForText l text => exact s.adheres_awaitText l text

theorem adheres_execute (step : Scenario.Step) :
    Attempt.Adheres (conduct s.id step.action) (s.execute step) [] (fun _ _ => True)
      step.action.MayFail := by
  refine attempt_bind (s.adheres_perform step.action) fun _ now _ => ?_
  split
  · exact adheres_pause s.id step.waitTime
  · exact attempt_pure trivial

end Perform

/-! ## Courses of an attempt -/

/-- How an attempt goes on after its action: the page is left alone for a span, if there is one and
the action succeeded. -/
inductive Settles (span : Duration) (us : List Exchange) :
    Except Failure Unit → List Exchange → Except Failure Unit → Prop where
  | failed (f : Failure) : Settles span us (.error f) us (.error f)
  | unsettled : span = .zero → Settles span us (.ok ()) us (.ok ())
  | settled (late : Nat) : span ≠ .zero →
      Settles span us (.ok ()) (us ++ [⟨.rest span, (some late : Option Nat)⟩]) (.ok ())
  | cancelled : span ≠ .zero →
      Settles span us (.ok ()) (us ++ [⟨.rest span, (none : Option Nat)⟩]) (.error .cancelled)

/-- What an attempt of a step does, and how it may end. -/
structure IsConduct (s : Session) (step : Scenario.Step) (xs : List Exchange)
    (e : Except Failure Unit) : Prop where
  /-- Nothing is asked but what the action may ask after what it has asked. -/
  proper : ∀ us x vs, xs = us ++ x :: vs → conduct s.id step.action us x.request
  /-- No change of the page is made twice, and none in another order. -/
  once : (changesOf xs).Nodup ∧ ∃ h, changesOf xs <+: step.action.changes h
  settled : ∃ us acted, Ends (s.perform step.action).run us acted ∧
    Settles step.waitTime us acted xs e
  failure : ∀ f, e = .error f → step.action.MayFail f

section Courses

variable {s : Session} {step : Scenario.Step} {xs : List Exchange} {e : Except Failure Unit}

theorem ends_execute (h : Ends (s.execute step).run xs e) :
    ∃ us acted, Ends (s.perform step.action).run us acted ∧
      Settles step.waitTime us acted xs e := by
  obtain ⟨acted, us, vs, hacted, hrest, rfl⟩ := ends_bind.1 h
  refine ⟨us, acted, hacted, ?_⟩
  cases acted with
  | error f =>
    obtain ⟨rfl, rfl⟩ := ends_pure.1 hrest
    rw [List.append_nil]
    exact .failed f
  | ok u =>
    split at hrest
    · next hspan =>
      obtain ⟨answer, ws, hend, rfl⟩ := ends_ask_bind.1 hrest
      cases answer with
      | some late =>
        obtain ⟨rfl, rfl⟩ := ends_pure.1 hend
        exact .settled late hspan
      | none =>
        obtain ⟨rfl, rfl⟩ := ends_pure.1 hend
        exact .cancelled hspan
    · next hspan =>
      obtain ⟨rfl, rfl⟩ := ends_pure.1 hrest
      rw [List.append_nil]
      exact .unsettled (not_not.1 hspan)

/-- The changes of a course are the first ones of the action: the last of them tells so. -/
theorem exists_changes {session : Nat} {a : Action}
    (h : ∀ us x vs, xs = us ++ x :: vs → conduct session a us x.request) :
    ∃ handle, changesOf xs <+: a.changes handle := by
  induction xs using List.reverseRecOn with
  | nil => exact ⟨⟨""⟩, List.nil_prefix⟩
  | append_singleton us x ih =>
    have hus := ih fun ws y vs heq => h ws y (vs ++ [x]) (by rw [heq]; simp)
    have hx := h us x [] rfl
    obtain ⟨r, answer⟩ := x
    rw [changesOf_append]
    cases r with
    | call session' c limit =>
      rw [changesOf_call]
      by_cases hc : c.changesPage = true
      · obtain ⟨handle, hprefix, -⟩ := hx.2.changes hc
        rw [if_pos hc]
        exact ⟨handle, hprefix⟩
      · rw [if_neg hc, List.append_nil]
        exact hus
    | rest span =>
      have hrest : changesOf [⟨.rest span, answer⟩] = [] := rfl
      rw [hrest, List.append_nil]
      exact hus
    | _ => exact hx.elim

theorem isConduct (h : Ends (s.execute step).run xs e) : IsConduct s step xs e := by
  obtain ⟨hend, hproper⟩ := (s.adheres_execute step).sound h
  have hchanges := exists_changes hproper
  refine ⟨hproper, ⟨?_, hchanges⟩, ends_execute h, ?_⟩
  · obtain ⟨handle, hprefix⟩ := hchanges
    exact (step.action.nodup_changes handle).sublist hprefix.sublist
  · rintro f rfl
    exact hend

/-- An attempt ends in every world, and whatever it is answered it conducts itself on the page as
its action may. -/
theorem conduct_of_execute (s : Session) (step : Scenario.Step) :
    (∀ (σ : Type) (w : World σ) (st : State σ),
      Ends (s.execute step).run ((s.execute step).run.trace w st)
        ((s.execute step).run.run w st).1) ∧
    ∀ xs e, Ends (s.execute step).run xs e → IsConduct s step xs e :=
  ⟨fun _ w st => ends_trace w _ st, fun _ _ h => isConduct h⟩

end Courses

/-! A text is typed into a field that is not there at the first look; then the page is left alone. -/

namespace Typing

def typist : Session := ⟨0, ⟨.ofMillis 1000, .ofMillis 500, .ofMillis 1000⟩⟩

def field : Locator := ⟨.id, "name"⟩

def element : Handle := ⟨"e"⟩

def step : Scenario.Step :=
  ⟨1, "s", "", "", "", .inputText field "new", .ofMillis 100, false⟩

/-- What is left of the time for looking after the first look. -/
def left : Nat := typist.limits.elementWait.nanos - nanosOfMillis 10

/-- The looks for the field. -/
def looks : List Exchange :=
  [.missed 0 field typist.limits.script "name" 10,
    ⟨.rest ⟨min pollInterval.nanos left⟩, (some 0 : Option Nat)⟩,
    .answered 0 (.find field) typist.limits.script element 10]

def changing : List Exchange :=
  [.answered 0 (.clear element) typist.limits.script () 0,
    .answered 0 (.typeText element "new") typist.limits.script () 0]

def settling : Exchange := ⟨.rest step.waitTime, (some 0 : Option Nat)⟩

def exchanges : List Exchange := looks ++ changing ++ [settling]

theorem ends_looks :
    Ends (typist.locateWithin field typist.limits.elementWait.nanos) looks
      (.ok (element, afterNap left 0 - nanosOfMillis 10)) := by
  have hleft : left ≠ 0 := by decide
  exact typist.ends_missed hleft (typist.ends_found _ _ _)

theorem ends_exchanges : Ends (typist.execute step).run exchanges (.ok ()) := by
  have hlocate : Ends (typist.locate field).run looks (.ok element) :=
    ends_bind.2 ⟨_, looks, [], ends_looks, .refl _, (List.append_nil looks).symm⟩
  have hperform : Ends (typist.perform step.action).run (looks ++ changing) (.ok ()) :=
    ends_bind.2 ⟨_, looks, changing, hlocate, .step (.step (.refl _)), rfl⟩
  exact ends_bind.2 ⟨_, looks ++ changing, [settling], hperform, .step (.refl _), rfl⟩

theorem conduct_of_exchanges :
    Ends (typist.execute step).run exchanges (.ok ()) ∧ IsConduct typist step exchanges (.ok ()) ∧
      changesOf exchanges = step.action.changes element :=
  ⟨ends_exchanges, (conduct_of_execute typist step).2 _ _ ends_exchanges, rfl⟩

end Typing

end Session

end Run
end Walkthrough
