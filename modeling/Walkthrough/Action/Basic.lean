import Walkthrough.Binary64.Reading
import Walkthrough.Duration
import Walkthrough.Failure
import Walkthrough.Power

/-!
# Walkthrough.Action.Basic

Actions ready to be carried out, and how they are built from the words of a step.

* `Target.parse` tells the page from an element.
* `Action.build` accepts a value only if it is in the grammar of the kind of action.
* `Action.kind_build` says that an action is built for its own kind only.
-/

namespace Walkthrough

/-- What a step points at. -/
inductive Target where
  | page
  | element (locator : Locator)
deriving DecidableEq, Repr

/-- The word for the page as a target. -/
def Target.pageWord : String := "url"

/-- Read a target. No target at all is the page. -/
def Target.parse (s : String) : Except Failure Target :=
  let t := Text.trim s
  if t.isEmpty || t = pageWord then .ok .page
  else
    match Locator.parse t with
    | .ok l => .ok (.element l)
    | .error f => .error (.target t (.noLocator f))

/-- An action with all that it needs. -/
inductive Action where
  | navigate (url : String)
  | inputText (locator : Locator) (text : String)
  | click (locator : Locator)
  | doubleClick (locator : Locator)
  | rightClick (locator : Locator)
  | hover (locator : Locator)
  | clearText (locator : Locator)
  | selectDropdown (locator : Locator) (option : String)
  | assertElementText (locator : Locator) (expected : String)
  | assertElementCount (locator : Locator) (expected : Nat)
  | assertElementVisible (locator : Locator)
  | assertElementNotVisible (locator : Locator)
  | assertElementAttribute (locator : Locator) (name expected : String)
  | assertUrlContains (expected : String)
  | assertTitleContains (expected : String)
  | waitForElement (locator : Locator)
  | waitForText (locator : Locator) (text : String)
  | refresh
  | back
  | forward
  | wait (duration : Duration)
deriving DecidableEq, Repr

namespace Action

def kind : Action → Kind
  | .navigate _ => .navigate
  | .inputText _ _ => .inputText
  | .click _ => .click
  | .doubleClick _ => .doubleClick
  | .rightClick _ => .rightClick
  | .hover _ => .hover
  | .clearText _ => .clearText
  | .selectDropdown _ _ => .selectDropdown
  | .assertElementText _ _ => .assertElementText
  | .assertElementCount _ _ => .assertElementCount
  | .assertElementVisible _ => .assertElementVisible
  | .assertElementNotVisible _ => .assertElementNotVisible
  | .assertElementAttribute _ _ _ => .assertElementAttribute
  | .assertUrlContains _ => .assertUrlContains
  | .assertTitleContains _ => .assertTitleContains
  | .waitForElement _ => .waitForElement
  | .waitForText _ _ => .waitForText
  | .refresh => .refresh
  | .back => .back
  | .forward => .forward
  | .wait _ => .wait

/-- The element that an action works on. -/
def locator? : Action → Option Locator
  | .inputText l _ | .click l | .doubleClick l | .rightClick l | .hover l | .clearText l
  | .selectDropdown l _ | .assertElementText l _ | .assertElementCount l _
  | .assertElementVisible l | .assertElementNotVisible l | .assertElementAttribute l _ _
  | .waitForElement l | .waitForText l _ => some l
  | _ => none

/-- Read an expected number of elements. -/
def readCount (value : String) : Except Config.Fault Nat :=
  match readNatural? (twoTo 64) (Text.trim value) with
  | some n => .ok n
  | none => .error (.notACount value)

/-- Read `attribute=expected`. Only the first equals sign separates, so that the expected value may
have its own. -/
def readAttributeCheck (value : String) : Except Config.Fault (String × String) :=
  match Text.splitFirst '=' value.toList with
  | none => .error (.notAnAttributeCheck value)
  | some (name, expected) =>
    if name.all Text.isBlank then .error (.notAnAttributeCheck value)
    else .ok (Text.trim (String.ofList name), String.ofList expected)

/-- The span of a number of seconds, which is the value of `field`. -/
def spanOf (field : String) (seconds : Binary64) : Except Config.Fault Duration :=
  if seconds.isNaN || seconds.isBelowZero then .error (.negativeSeconds field seconds)
  else
    match Duration.ofSeconds? seconds with
    | some d => .ok d
    | none => .error (.tooManySeconds field seconds)

/-- Read how long to wait. No value is one second. -/
def readWait (value : String) : Except Config.Fault Duration :=
  if Text.isBlankText value then .ok (.ofWholeSeconds 1)
  else
    match Binary64.parse? (Text.trim value) with
    | some x => spanOf "wait" x
    | none => .error (.notSeconds value)

/-- Build an action on an element from its value. -/
def valued {α : Type} (f : α → Action) : Except Config.Fault α → Except Failure Action
  | .ok a => .ok (f a)
  | .error e => .error (.config e)

/-- The element for an action of a kind, none for an action on the page. The target has to suit the
kind. -/
def locatorFor (kind : Kind) (target : Target) (targetText : String) :
    Except Failure (Option Locator) :=
  match kind.needsElement, target with
  | true, .element l => .ok (some l)
  | true, .page => .error (.target targetText (.elementNeeded kind))
  | false, .page => .ok none
  | false, .element _ => .error (.target targetText (.pageNeeded kind))

/-- The action of a kind, on an element if there is one, with what its value says. -/
def complete (kind : Kind) (locator : Option Locator) (value : String) (url : Option String) :
    Except Failure Action :=
  match kind, locator with
  | .navigate, _ => .ok (.navigate (url.getD value))
  | .inputText, some l => .ok (.inputText l value)
  | .click, some l => .ok (.click l)
  | .doubleClick, some l => .ok (.doubleClick l)
  | .rightClick, some l => .ok (.rightClick l)
  | .hover, some l => .ok (.hover l)
  | .clearText, some l => .ok (.clearText l)
  | .selectDropdown, some l =>
    if value.isEmpty then .error (.config .optionMissing) else .ok (.selectDropdown l value)
  | .assertElementText, some l => .ok (.assertElementText l value)
  | .assertElementCount, some l => valued (.assertElementCount l) (readCount value)
  | .assertElementVisible, some l => .ok (.assertElementVisible l)
  | .assertElementNotVisible, some l => .ok (.assertElementNotVisible l)
  | .assertElementAttribute, some l =>
    valued (fun check => .assertElementAttribute l check.1 check.2) (readAttributeCheck value)
  | .assertUrlContains, _ => .ok (.assertUrlContains value)
  | .assertTitleContains, _ => .ok (.assertTitleContains value)
  | .waitForElement, some l => .ok (.waitForElement l)
  | .waitForText, some l => .ok (.waitForText l value)
  | .refresh, _ => .ok .refresh
  | .back, _ => .ok .back
  | .forward, _ => .ok .forward
  | .wait, _ => valued .wait (readWait value)
  | kind, none => .error (.config (.locatorMissing kind))

/-- Build the action of a kind from its target and its value. `targetText` is how the target was
written, `url` is where to navigate unless that is the value itself. -/
def build (kind : Kind) (target : Target) (targetText value : String) (url : Option String) :
    Except Failure Action :=
  match locatorFor kind target targetText with
  | .ok locator => complete kind locator value url
  | .error f => .error f

theorem valued_eq_ok {α : Type} {f : α → Action} {r : Except Config.Fault α} {a : Action} :
    valued f r = .ok a ↔ ∃ x, r = .ok x ∧ a = f x := by
  cases r <;> simp [valued, eq_comm]

/-- What is completed is of its kind. -/
theorem kind_complete {kind : Kind} {locator : Option Locator} {value : String}
    {url : Option String} {a : Action} (h : complete kind locator value url = .ok a) :
    a.kind = kind := by
  unfold complete at h
  split at h
  all_goals first
    | (obtain ⟨x, _, rfl⟩ := valued_eq_ok.1 h; rfl)
    | (cases h; rfl)
    | (split at h <;> cases h; rfl)
    | cases h

/-- An action is of the kind that it was built for. -/
theorem kind_build {kind : Kind} {target : Target} {targetText value : String}
    {url : Option String} {a : Action} (h : build kind target targetText value url = .ok a) :
    a.kind = kind := by
  unfold build at h
  split at h
  · exact kind_complete h
  · cases h

end Action
end Walkthrough
