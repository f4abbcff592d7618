import Walkthrough.Action.Basic
import Walkthrough.Proofs.Basic

/-!
# Walkthrough.Proofs.Actions

Which actions can be built, and what of a step they carry.

* `readCount_eq_ok_iff`, `readAttributeCheck_eq_ok_iff`, `readWait_eq_ok_iff`, `spanOf_eq_ok_iff`: the
  grammars of values.
* `build_eq_ok_iff`: the action that is built has its kind, its target and what its value says.
* `exists_build_iff`: an action can be built exactly if the target suits the kind and the kind
  accepts the value.
-/

namespace Walkthrough

namespace Action

/-! ## The grammars of values -/

/-- A natural number as it is written: a plus sign or none, and at least one digit. -/
def IsNumeral (cs : List Char) (n : Nat) : Prop :=
  ∃ sign digits, cs = sign ++ digits ∧ (sign = [] ∨ sign = ['+']) ∧ digits ≠ [] ∧
    (∀ c ∈ digits, c.isDigit = true) ∧ n = Binary64.ofDigits digits

theorem readNatural?_eq_some_iff {bound : Nat} {s : String} {n : Nat} :
    readNatural? bound s = some n ↔ IsNumeral s.toList n ∧ n < bound := by
  -- What is read is the text behind the sign, if there is one.
  have hread : ∀ digits, (if digits.isEmpty || !digits.all Char.isDigit then none
      else if Binary64.ofDigits digits < bound then some (Binary64.ofDigits digits) else none) =
        some n ↔ (digits ≠ [] ∧ (∀ c ∈ digits, c.isDigit = true) ∧
          n = Binary64.ofDigits digits) ∧ n < bound := by
    intro digits
    by_cases hdigits : digits.isEmpty || !digits.all Char.isDigit
    · rw [if_pos hdigits]
      simp only [reduceCtorEq, false_iff]
      rintro ⟨⟨hne, hall, -⟩, -⟩
      simp [hne, List.all_eq_true.2 hall] at hdigits
    · rw [if_neg hdigits]
      simp only [Bool.or_eq_true, List.isEmpty_iff, Bool.not_eq_true', not_or,
        Bool.not_eq_false, List.all_eq_true] at hdigits
      by_cases hlt : Binary64.ofDigits digits < bound
      · rw [if_pos hlt, Option.some.injEq]
        exact ⟨fun h => h ▸ ⟨⟨hdigits.1, hdigits.2, rfl⟩, hlt⟩, fun h => h.1.2.2.symm⟩
      · rw [if_neg hlt]
        simp only [reduceCtorEq, false_iff]
        rintro ⟨⟨-, -, rfl⟩, hn⟩
        exact hlt hn
  rw [readNatural?]
  split
  · next rest hplus =>
    rw [hread, hplus, and_congr_left_iff]
    intro _
    constructor
    · rintro ⟨hne, hall, rfl⟩
      exact ⟨['+'], rest, rfl, .inr rfl, hne, hall, rfl⟩
    · rintro ⟨sign, digits, heq, rfl | rfl, hne, hall, rfl⟩
      · obtain rfl : digits = '+' :: rest := heq.symm
        exact absurd (hall '+' List.mem_cons_self) (by decide)
      · obtain rfl : rest = digits := by simpa using heq
        exact ⟨hne, hall, rfl⟩
  · next hplain =>
    rw [hread, and_congr_left_iff]
    intro _
    constructor
    · rintro ⟨hne, hall, rfl⟩
      exact ⟨[], s.toList, rfl, .inl rfl, hne, hall, rfl⟩
    · rintro ⟨sign, digits, heq, rfl | rfl, hne, hall, rfl⟩
      · obtain rfl : s.toList = digits := heq
        exact ⟨hne, hall, rfl⟩
      · exact absurd heq (hplain digits)

theorem readCount_eq_ok_iff {value : String} {n : Nat} :
    readCount value = .ok n ↔ IsNumeral (Text.trim value).toList n ∧ n < twoTo 64 := by
  rw [← readNatural?_eq_some_iff, readCount]
  cases readNatural? (twoTo 64) (Text.trim value) <;> simp

/-- The name of an attribute and the value that it should have: the first equals sign is between
them, and the name is not blank. -/
def IsAttributeCheck (value name expected : String) : Prop :=
  ∃ front back, value.toList = front ++ '=' :: back ∧ '=' ∉ front ∧ front.all Text.isBlank = false ∧
    name = Text.trim (String.ofList front) ∧ expected = String.ofList back

theorem readAttributeCheck_eq_ok_iff {value name expected : String} :
    readAttributeCheck value = .ok (name, expected) ↔ IsAttributeCheck value name expected := by
  constructor
  · intro h
    rw [readAttributeCheck] at h
    split at h
    · cases h
    · next front back hsplit =>
      obtain ⟨hvalue, hfront⟩ := Text.splitFirst_eq_some_iff.1 hsplit
      split at h
      · cases h
      · next hblank =>
        obtain ⟨rfl, rfl⟩ := Prod.mk.inj (Except.ok.inj h)
        exact ⟨front, back, hvalue, hfront, Bool.eq_false_iff.2 hblank, rfl, rfl⟩
  · rintro ⟨front, back, hvalue, hfront, hblank, rfl, rfl⟩
    have hsplit := Text.splitFirst_eq_some_iff.2 ⟨hvalue, hfront⟩
    simp [readAttributeCheck, hsplit, hblank]

/-- A number of seconds that is a span of time, `d`. -/
def IsSpan (seconds : Binary64) (d : Duration) : Prop :=
  seconds.isNaN = false ∧ seconds.isBelowZero = false ∧ seconds.isFinite = true ∧
    d.nanos = Duration.nanosOf seconds ∧ d.nanos < twoTo 64 * 1000000000

theorem ofSeconds?_eq_some_iff {seconds : Binary64} {d : Duration} :
    Duration.ofSeconds? seconds = some d ↔ IsSpan seconds d := by
  obtain ⟨nanos⟩ := d
  rw [Duration.ofSeconds?]
  split
  · next h =>
    simp only [reduceCtorEq, false_iff]
    rintro ⟨hnan, hbelow, hfinite, -⟩
    simp [hnan, hbelow, hfinite] at h
  · next h =>
    simp only [Bool.or_eq_true, Bool.not_eq_true', not_or, Bool.not_eq_true,
      Bool.not_eq_false] at h
    obtain ⟨⟨hnan, hbelow⟩, hfinite⟩ := h
    simp only [IsSpan, hnan, hbelow, hfinite, true_and]
    split
    · next hlt =>
      simp only [Option.some.injEq, Duration.mk.injEq]
      exact ⟨fun h => h ▸ ⟨rfl, hlt⟩, fun h => h.1.symm⟩
    · next hlt =>
      simp only [reduceCtorEq, false_iff]
      rintro ⟨rfl, h⟩
      exact hlt h

theorem spanOf_eq_ok_iff {field : String} {seconds : Binary64} {d : Duration} :
    spanOf field seconds = .ok d ↔ IsSpan seconds d := by
  rw [← ofSeconds?_eq_some_iff, spanOf]
  split
  · next h =>
    have hnone : Duration.ofSeconds? seconds = none := by
      rw [Duration.ofSeconds?, if_pos (by rw [h, Bool.true_or])]
    simp [hnone]
  · cases Duration.ofSeconds? seconds <;> simp

/-- How long a value says to wait: one second if it is blank, otherwise the seconds that it names. -/
def IsWait (value : String) (d : Duration) : Prop :=
  if Text.isBlankText value then d = .ofWholeSeconds 1
  else ∃ seconds, Binary64.parse? (Text.trim value) = some seconds ∧ IsSpan seconds d

theorem readWait_eq_ok_iff {value : String} {d : Duration} :
    readWait value = .ok d ↔ IsWait value d := by
  rw [readWait, IsWait]
  split
  · rw [Except.ok.injEq, eq_comm]
  · cases hparse : Binary64.parse? (Text.trim value) with
    | none => simp
    | some seconds => simp [spanOf_eq_ok_iff]

/-! ## Building -/

/-- What an action points at. -/
def target (a : Action) : Target :=
  match a.locator? with
  | some l => .element l
  | none => .page

/-- What an action has from its value, or from the address where to navigate. -/
def Carries (value : String) (url : Option String) : Action → Prop
  | .navigate u => u = url.getD value
  | .inputText _ t | .assertElementText _ t | .assertUrlContains t | .assertTitleContains t
  | .waitForText _ t => t = value
  | .selectDropdown _ t => t = value ∧ value ≠ ""
  | .assertElementCount _ n => IsNumeral (Text.trim value).toList n ∧ n < twoTo 64
  | .assertElementAttribute _ name expected => IsAttributeCheck value name expected
  | .wait d => IsWait value d
  | .click _ | .doubleClick _ | .rightClick _ | .hover _ | .clearText _ | .assertElementVisible _
  | .assertElementNotVisible _ | .waitForElement _ | .refresh | .back | .forward => True

/-- An action that was built is of its kind, points at its target and carries its value, and every
such action is built. -/
theorem build_eq_ok_iff {kind : Kind} {t : Target} {targetText value : String}
    {url : Option String} {a : Action} : build kind t targetText value url = .ok a ↔
      a.kind = kind ∧ a.target = t ∧ a.Carries value url := by
  constructor
  · intro h
    obtain rfl := kind_build h
    refine ⟨rfl, ?_⟩
    -- Of the two targets one does not suit the kind, and nothing is built for it.
    cases a with
    | navigate u | inputText l text | assertElementText l text | assertUrlContains text
    | assertTitleContains text | waitForText l text =>
      cases t <;> cases h
      exact ⟨rfl, rfl⟩
    | click l | doubleClick l | rightClick l | hover l | clearText l | assertElementVisible l
    | assertElementNotVisible l | waitForElement l | refresh | back | forward =>
      cases t <;> cases h
      exact ⟨rfl, trivial⟩
    | selectDropdown l option =>
      cases t with
      | page => cases h
      | element l' =>
        change complete .selectDropdown (some l') value url = .ok (.selectDropdown l option) at h
        by_cases hvalue : value = ""
        · simp [complete, hvalue] at h
        · obtain ⟨rfl, rfl⟩ : l' = l ∧ value = option := by simpa [complete, hvalue] using h
          exact ⟨rfl, rfl, hvalue⟩
    | assertElementCount l n =>
      cases t with
      | page => cases h
      | element l' =>
        obtain ⟨n', hn, heq⟩ := valued_eq_ok.1 h
        cases heq
        exact ⟨rfl, readCount_eq_ok_iff.1 hn⟩
    | assertElementAttribute l name expected =>
      cases t with
      | page => cases h
      | element l' =>
        obtain ⟨⟨name', expected'⟩, hcheck, heq⟩ := valued_eq_ok.1 h
        cases heq
        exact ⟨rfl, readAttributeCheck_eq_ok_iff.1 hcheck⟩
    | wait d =>
      cases t with
      | page =>
        obtain ⟨d', hd, heq⟩ := valued_eq_ok.1 h
        cases heq
        exact ⟨rfl, readWait_eq_ok_iff.1 hd⟩
      | element l' => cases h
  · rintro ⟨rfl, rfl, hcarries⟩
    cases a with
    | navigate u => exact congrArg (fun u => Except.ok (navigate u)) hcarries.symm
    | inputText l text | assertElementText l text | assertUrlContains text
    | assertTitleContains text | waitForText l text =>
      cases hcarries
      rfl
    | selectDropdown l option =>
      obtain ⟨rfl, hvalue⟩ := hcarries
      change complete .selectDropdown (some l) option url = .ok (.selectDropdown l option)
      simp [complete, hvalue]
    | assertElementCount l n => exact valued_eq_ok.2 ⟨n, readCount_eq_ok_iff.2 hcarries, rfl⟩
    | assertElementAttribute l name expected =>
      exact valued_eq_ok.2 ⟨(name, expected), readAttributeCheck_eq_ok_iff.2 hcarries, rfl⟩
    | wait d => exact valued_eq_ok.2 ⟨d, readWait_eq_ok_iff.2 hcarries, rfl⟩
    | _ => rfl

/-- The values in the grammar of a kind. -/
def Kind.Accepts (value : String) : Kind → Prop
  | .selectDropdown => value ≠ ""
  | .assertElementCount => ∃ n, IsNumeral (Text.trim value).toList n ∧ n < twoTo 64
  | .assertElementAttribute => ∃ name expected, IsAttributeCheck value name expected
  | .wait => ∃ d, IsWait value d
  | _ => True

end Action

/-- A target suits a kind if it is an element exactly where the kind works on one. -/
def Target.Suits (kind : Action.Kind) : Target → Prop
  | .page => kind.needsElement = false
  | .element _ => kind.needsElement = true

namespace Action

theorem suits_target (a : Action) : a.target.Suits a.kind := by
  cases a <;> rfl

theorem accepts_of_carries {a : Action} {value : String} {url : Option String}
    (h : a.Carries value url) : a.kind.Accepts value := by
  cases a with
  | selectDropdown l option => exact h.2
  | assertElementCount l n => exact ⟨n, h⟩
  | assertElementAttribute l name expected => exact ⟨name, expected, h⟩
  | wait d => exact ⟨d, h⟩
  | _ => trivial

/-- An action of a kind for every target that suits it and every value that it accepts. -/
theorem exists_carries {kind : Kind} {t : Target} {value : String} (url : Option String)
    (ht : t.Suits kind) (hvalue : kind.Accepts value) :
    ∃ a : Action, a.kind = kind ∧ a.target = t ∧ a.Carries value url := by
  cases t with
  | page =>
    cases kind with
    | navigate => exact ⟨.navigate (url.getD value), rfl, rfl, rfl⟩
    | assertUrlContains => exact ⟨.assertUrlContains value, rfl, rfl, rfl⟩
    | assertTitleContains => exact ⟨.assertTitleContains value, rfl, rfl, rfl⟩
    | refresh => exact ⟨.refresh, rfl, rfl, trivial⟩
    | back => exact ⟨.back, rfl, rfl, trivial⟩
    | forward => exact ⟨.forward, rfl, rfl, trivial⟩
    | wait =>
      obtain ⟨d, hd⟩ := hvalue
      exact ⟨.wait d, rfl, rfl, hd⟩
    | _ => cases ht
  | element l =>
    cases kind with
    | inputText => exact ⟨.inputText l value, rfl, rfl, rfl⟩
    | click => exact ⟨.click l, rfl, rfl, trivial⟩
    | doubleClick => exact ⟨.doubleClick l, rfl, rfl, trivial⟩
    | rightClick => exact ⟨.rightClick l, rfl, rfl, trivial⟩
    | hover => exact ⟨.hover l, rfl, rfl, trivial⟩
    | clearText => exact ⟨.clearText l, rfl, rfl, trivial⟩
    | selectDropdown => exact ⟨.selectDropdown l value, rfl, rfl, rfl, hvalue⟩
    | assertElementText => exact ⟨.assertElementText l value, rfl, rfl, rfl⟩
    | assertElementCount =>
      obtain ⟨n, hn⟩ := hvalue
      exact ⟨.assertElementCount l n, rfl, rfl, hn⟩
    | assertElementVisible => exact ⟨.assertElementVisible l, rfl, rfl, trivial⟩
    | assertElementNotVisible => exact ⟨.assertElementNotVisible l, rfl, rfl, trivial⟩
    | assertElementAttribute =>
      obtain ⟨name, expected, hcheck⟩ := hvalue
      exact ⟨.assertElementAttribute l name expected, rfl, rfl, hcheck⟩
    | waitForElement => exact ⟨.waitForElement l, rfl, rfl, trivial⟩
    | waitForText => exact ⟨.waitForText l value, rfl, rfl, rfl⟩
    | _ => cases ht

theorem exists_build_iff {kind : Kind} {t : Target} {targetText value : String}
    {url : Option String} : (∃ a, build kind t targetText value url = .ok a) ↔
      t.Suits kind ∧ kind.Accepts value := by
  constructor
  · rintro ⟨a, h⟩
    obtain ⟨rfl, rfl, hcarries⟩ := build_eq_ok_iff.1 h
    exact ⟨suits_target a, accepts_of_carries hcarries⟩
  · rintro ⟨ht, hvalue⟩
    obtain ⟨a, h⟩ := exists_carries url ht hvalue
    exact ⟨a, build_eq_ok_iff.2 h⟩

end Action
end Walkthrough
