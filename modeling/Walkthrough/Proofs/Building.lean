import Walkthrough.Proofs.Actions
import Walkthrough.Proofs.Decimals

/-!
# Walkthrough.Proofs.Building

What comes of building an action, for every kind, target and value.

* `Kind.Grammar`: the values of a kind, numbers of seconds as they are written.
* `locatorFor_eq_ok_iff`, `locatorFor_eq_error_iff`: a target that suits the kind is let through, and
  any other is refused.
* `exists_fault_of_complete`: behind a target that suits, the value alone can be at fault.
* `built_of_grammar` puts them together.
-/

namespace Walkthrough

/-- The element of a target, if it is one. -/
def Target.locator? : Target → Option Locator
  | .page => none
  | .element l => some l

/-- How a target does not suit a kind. -/
def Target.misfit (kind : Action.Kind) : Target → Failure.Misfit
  | .page => .elementNeeded kind
  | .element _ => .pageNeeded kind

namespace Action

/-! ## The grammar of a kind -/

/-- The values in the grammar of a kind. Where a span of time is asked for, nothing is one second,
and anything else has to be a number of seconds that is finite, not below zero and not too large. -/
def Kind.Grammar (value : String) : Kind → Prop
  | .wait => Text.isBlankText value = true ∨
      ∃ seconds d, Binary64.IsNumber (Text.trim value).toList seconds ∧ IsSpan seconds d
  | kind => kind.Accepts value

theorem exists_isWait_iff {value : String} : (∃ d, IsWait value d) ↔ Kind.wait.Grammar value := by
  -- What is a span is finite, so its text is one that the grammar of numbers has.
  have hread : ∀ seconds d, IsSpan seconds d → (Binary64.parse? (Text.trim value) = some seconds ↔
      Binary64.IsNumber (Text.trim value).toList seconds) :=
    fun seconds d hspan => Binary64.finite_parse_iff hspan.2.2.1
  by_cases hblank : Text.isBlankText value = true
  · simp [IsWait, Kind.Grammar, hblank]
  · simp only [IsWait, Kind.Grammar, hblank, Bool.false_eq_true, if_false, false_or]
    constructor
    · rintro ⟨d, seconds, hparse, hspan⟩
      exact ⟨seconds, d, (hread seconds d hspan).1 hparse, hspan⟩
    · rintro ⟨seconds, d, hnumber, hspan⟩
      exact ⟨d, seconds, (hread seconds d hspan).2 hnumber, hspan⟩

theorem accepts_iff_grammar {kind : Kind} {value : String} :
    kind.Accepts value ↔ kind.Grammar value := by
  cases kind with
  | wait => exact exists_isWait_iff
  | _ => exact Iff.rfl

/-! ## Targets -/

theorem locatorFor_eq_ok_iff {kind : Kind} {t : Target} {targetText : String}
    {locator : Option Locator} :
    locatorFor kind t targetText = .ok locator ↔ t.Suits kind ∧ locator = t.locator? := by
  cases t with
  | page => cases h : kind.needsElement <;> simp [locatorFor, Target.Suits, Target.locator?, h, eq_comm]
  | element l =>
    cases h : kind.needsElement <;> simp [locatorFor, Target.Suits, Target.locator?, h, eq_comm]

theorem locatorFor_eq_error_iff {kind : Kind} {t : Target} {targetText : String} {f : Failure} :
    locatorFor kind t targetText = .error f ↔
      ¬t.Suits kind ∧ f = .target targetText (t.misfit kind) := by
  cases t with
  | page => cases h : kind.needsElement <;> simp [locatorFor, Target.Suits, Target.misfit, h, eq_comm]
  | element l =>
    cases h : kind.needsElement <;> simp [locatorFor, Target.Suits, Target.misfit, h, eq_comm]

/-! ## Values -/

/-- A fault of the value of an action. -/
inductive IsValueFault (value : String) : Config.Fault → Prop where
  | optionMissing : IsValueFault value .optionMissing
  | notACount : IsValueFault value (.notACount value)
  | notAnAttributeCheck : IsValueFault value (.notAnAttributeCheck value)
  | notSeconds : IsValueFault value (.notSeconds value)
  | negativeSeconds {x : Binary64} : IsValueFault value (.negativeSeconds "wait" x)
  | tooManySeconds {x : Binary64} : IsValueFault value (.tooManySeconds "wait" x)

theorem valued_eq_error {α : Type} {make : α → Action} {r : Except Config.Fault α} {f : Failure} :
    valued make r = .error f ↔ ∃ e, r = .error e ∧ f = .config e := by
  cases r <;> simp [valued, eq_comm]

theorem isValueFault_of_readCount {value : String} {e : Config.Fault}
    (h : readCount value = .error e) : IsValueFault value e := by
  unfold readCount at h
  split at h
  · cases h
  · cases h
    exact .notACount

theorem isValueFault_of_readAttributeCheck {value : String} {e : Config.Fault}
    (h : readAttributeCheck value = .error e) : IsValueFault value e := by
  unfold readAttributeCheck at h
  split at h
  · cases h
    exact .notAnAttributeCheck
  · split at h
    · cases h
      exact .notAnAttributeCheck
    · cases h

theorem isValueFault_of_readWait {value : String} {e : Config.Fault}
    (h : readWait value = .error e) : IsValueFault value e := by
  unfold readWait at h
  split at h
  · cases h
  · split at h
    · unfold spanOf at h
      split at h
      · cases h
        exact .negativeSeconds
      · split at h
        · cases h
        · cases h
          exact .tooManySeconds
    · cases h
      exact .notSeconds

/-- An element is there wherever one is needed, so nothing but the value can be at fault. -/
theorem exists_fault_of_complete {kind : Kind} {t : Target} {value : String} {url : Option String}
    {f : Failure} (ht : t.Suits kind) (h : complete kind t.locator? value url = .error f) :
    ∃ e, f = .config e ∧ IsValueFault value e := by
  cases t with
  | page =>
    cases kind with
    | wait =>
      change valued .wait (readWait value) = .error f at h
      obtain ⟨e, he, rfl⟩ := valued_eq_error.1 h
      exact ⟨e, rfl, isValueFault_of_readWait he⟩
    | navigate | assertUrlContains | assertTitleContains | refresh | back | forward => cases h
    | _ => cases ht
  | element l =>
    cases kind with
    | selectDropdown =>
      simp only [Target.locator?, complete] at h
      split at h
      · cases h
        exact ⟨_, rfl, .optionMissing⟩
      · cases h
    | assertElementCount =>
      change valued (.assertElementCount l) (readCount value) = .error f at h
      obtain ⟨e, he, rfl⟩ := valued_eq_error.1 h
      exact ⟨e, rfl, isValueFault_of_readCount he⟩
    | assertElementAttribute =>
      change valued (fun check => .assertElementAttribute l check.1 check.2)
        (readAttributeCheck value) = .error f at h
      obtain ⟨e, he, rfl⟩ := valued_eq_error.1 h
      exact ⟨e, rfl, isValueFault_of_readAttributeCheck he⟩
    | inputText | click | doubleClick | rightClick | hover | clearText | assertElementText
    | assertElementVisible | assertElementNotVisible | waitForElement | waitForText => cases h
    | _ => cases ht

/-! ## Building -/

theorem build_eq_error_iff {kind : Kind} {t : Target} {targetText value : String}
    {url : Option String} {f : Failure} : build kind t targetText value url = .error f ↔
      ¬t.Suits kind ∧ f = .target targetText (t.misfit kind) ∨
        t.Suits kind ∧ complete kind t.locator? value url = .error f := by
  unfold build
  cases hlocator : locatorFor kind t targetText with
  | ok locator =>
    obtain ⟨ht, rfl⟩ := locatorFor_eq_ok_iff.1 hlocator
    simp [ht]
  | error g =>
    obtain ⟨ht, rfl⟩ := locatorFor_eq_error_iff.1 hlocator
    simp [ht, eq_comm]

/-- An action is built exactly if the target suits the kind and the value is in its grammar. It is of
the kind, points at the target and carries the value. Otherwise the target is refused if it does not
suit, and the value if it does; that an element is missing is never found out any later. -/
theorem built_of_grammar (kind : Kind) (t : Target) (targetText value : String)
    (url : Option String) :
    ((∃ a, build kind t targetText value url = .ok a) ↔ t.Suits kind ∧ kind.Grammar value) ∧
      (∀ a, build kind t targetText value url = .ok a ↔
        a.kind = kind ∧ a.target = t ∧ a.Carries value url) ∧
      ∀ f, build kind t targetText value url = .error f →
        (f.kind = .locator ↔ ¬t.Suits kind) ∧ (f.kind = .config ↔ t.Suits kind) ∧
          ∀ k, f ≠ .config (.locatorMissing k) := by
  refine ⟨?built, fun a => build_eq_ok_iff, fun f hf => ?refused⟩
  case built => rw [exists_build_iff, accepts_iff_grammar]
  case refused =>
    rcases build_eq_error_iff.1 hf with ⟨ht, rfl⟩ | ⟨ht, hcomplete⟩
    · exact ⟨by simp [Failure.kind, ht], by simp [Failure.kind, ht], fun k heq => by cases heq⟩
    · obtain ⟨e, rfl, he⟩ := exists_fault_of_complete ht hcomplete
      refine ⟨by simp [Failure.kind, ht], by simp [Failure.kind, ht], fun k heq => ?_⟩
      cases heq
      cases he

/-- Only the first equals sign separates, and what stands behind it stays as it is. -/
example : build .assertElementAttribute (.element ⟨.id, "a"⟩) "id:a" " href = a=b" none =
    .ok (.assertElementAttribute ⟨.id, "a"⟩ "href" " a=b") := by decide +kernel

end Action
end Walkthrough
