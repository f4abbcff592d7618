import Walkthrough.Config.Environment
import Walkthrough.Run.Program
import Walkthrough.Scenario.Definition

/-!
# Walkthrough.Run.Attempt

One attempt of a step: its action carried out in a browser session, then the time that the page is
left alone.

* `locateWithin` looks for an element again and again until its time is up; it ends because every
  rest takes some of the time.
* `perform` makes the calls of an action in order and stops at the first failure.
-/

namespace Walkthrough
namespace Run

open Browser

/-- The limits of calls. -/
structure Limits where
  pageLoad : Duration
  elementWait : Duration
  script : Duration
deriving DecidableEq, Repr

/-- The limits that an environment asks for. -/
def Limits.ofTimeouts (t : Config.Timeouts) : Limits := ⟨t.pageLoad, t.elementWait, t.script⟩

/-- An open browser session and the limits of the calls made on it. -/
structure Session where
  id : Nat
  limits : Limits
deriving DecidableEq, Repr

/-- A program that may fail. -/
abbrev Attempt (α : Type) : Type := ExceptT Failure Program α

/-- The time between two looks at a page that is awaited. -/
def pollInterval : Duration := .ofMillis 250

/-- Milliseconds in nanoseconds. -/
def nanosOfMillis (ms : Nat) : Nat := (Duration.ofMillis ms).nanos

/-- What the ending of a call means for the step that made it. A browser that ran out of time
itself counts as one that did not answer within the limit. -/
def outcome {α : Type} (c : Call) (limit : Duration) : Ending α → Except Failure α
  | .answered (.ok a) => .ok a
  | .answered (.error (.timedOut _)) => .error (.timeout (.named c.operation) limit.inSeconds)
  | .answered (.error f) => .error (.ofBrowser f)
  | .late => .error (.timeout (.named c.operation) limit.inSeconds)
  | .cancelled => .error .cancelled

namespace Session

/-- Make a call, and say how many nanoseconds it took. -/
def timed (s : Session) (c : Call) (limit : Duration) : Program (Except Failure c.Result × Nat) := do
  let (ending, millis) ← Program.ask (.call s.id c limit)
  return (outcome c limit ending, nanosOfMillis millis)

/-- Make a call within a limit. -/
def within (s : Session) (limit : Duration) (c : Call) : Attempt c.Result :=
  ExceptT.mk ((·.1) <$> s.timed c limit)

/-- Make a call that loads a page. -/
def load (s : Session) (c : Call) : Attempt c.Result := s.within s.limits.pageLoad c

/-- Make any other call. -/
def script (s : Session) (c : Call) : Attempt c.Result := s.within s.limits.script c

end Session

/-- Do nothing for a while. -/
def pause (span : Duration) : Attempt Unit := ExceptT.mk do
  match ← Program.ask (.rest span) with
  | some _ => return .ok ()
  | none => return .error .cancelled

/-- The nanoseconds that are left after a nap of at most the poll interval which was exceeded by
some milliseconds. -/
def afterNap (remaining late : Nat) : Nat :=
  remaining - nanosOfMillis ((Duration.mk (min pollInterval.nanos remaining)).ceilMillis + late)

theorem afterNap_lt {remaining : Nat} (h : remaining ≠ 0) (late : Nat) :
    afterNap remaining late < remaining := by
  simp only [afterNap, nanosOfMillis, Duration.ofMillis, Duration.ceilMillis, pollInterval]
  omega

namespace Session

/-- Look for an element until it is there or the remaining nanoseconds are over, and say how many
are left. -/
def locateWithin (s : Session) (l : Locator) (remaining : Nat) :
    Program (Except Failure (Handle × Nat)) := do
  let (found, spent) ← s.timed (.find l) s.limits.script
  let left := remaining - spent
  match found with
  | .ok element => return .ok (element, left)
  | .error (.notFound _) =>
    if _h : left = 0 then
      return .error (.notFound (l.text ++ " (waited " ++ s.limits.elementWait.text ++ "s)"))
    else
      match ← Program.ask (.rest ⟨min pollInterval.nanos left⟩) with
      | none => return .error .cancelled
      | some late => s.locateWithin l (afterNap left late)
  | .error f => return .error f
termination_by remaining
decreasing_by exact Nat.lt_of_lt_of_le (afterNap_lt _h late) (Nat.sub_le _ _)

/-- Look for an element as long as elements are waited for. -/
def locate (s : Session) (l : Locator) : Attempt Handle :=
  ExceptT.mk do
    match ← s.locateWithin l s.limits.elementWait.nanos with
    | .ok (element, _) => return .ok element
    | .error f => return .error f

/-- Read the text of an element until it holds the awaited one or the remaining nanoseconds are
over. -/
def readWithin (s : Session) (l : Locator) (text : String) (element : Handle) (remaining : Nat) :
    Program (Except Failure Unit) := do
  let (read, spent) ← s.timed (.textOf element) s.limits.script
  let left := remaining - spent
  match read with
  | .error f => return .error f
  | .ok actual =>
    if Text.contains text actual then return .ok ()
    else if _h : left = 0 then
      return .error (.timeout (.awaiting text l) s.limits.elementWait.inSeconds)
    else
      match ← Program.ask (.rest ⟨min pollInterval.nanos left⟩) with
      | none => return .error .cancelled
      | some late => s.readWithin l text element (afterNap left late)
termination_by remaining
decreasing_by exact Nat.lt_of_lt_of_le (afterNap_lt _h late) (Nat.sub_le _ _)

/-- Wait for a text in an element. Looking for the element and reading it share one budget. -/
def awaitText (s : Session) (l : Locator) (text : String) : Attempt Unit :=
  ExceptT.mk do
    match ← s.locateWithin l s.limits.elementWait.nanos with
    | .error f => return .error f
    | .ok (element, left) => s.readWithin l text element left

/-- Fail an assertion unless it holds. -/
def expect (holds : Bool) (finding : Failure.Finding) : Attempt Unit :=
  if holds then pure () else throw (.assertion finding)

/-- Is the element there and shown? -/
def assertVisible (s : Session) (l : Locator) : Attempt Unit := do
  let element ← tryCatch (s.locate l) fun f =>
    match f with
    | .notFound _ => throw (.assertion (.absent l))
    | f => throw f
  let shown : Bool ← s.script (.isDisplayed element)
  expect shown (.hidden l)

/-- Is the element hidden or not there? One that goes away between two calls is not there. -/
def assertNotVisible (s : Session) (l : Locator) : Attempt Unit := do
  let present : Nat ← s.script (.count l)
  if present = 0 then return
  let element? ← tryCatch (some <$> s.script (.find l)) fun f =>
    match f with
    | .notFound _ => pure none
    | f => throw f
  match element? with
  | none => return
  | some element =>
    let shown : Bool ← s.script (.isDisplayed element)
    expect (!shown) (.shown l)

/-- Carry out an action. -/
def perform (s : Session) : Action → Attempt Unit
  | .navigate url => s.load (.navigate url)
  | .inputText l text => do
    let element ← s.locate l
    s.script (.clear element)
    s.script (.typeText element text)
  | .click l => do s.script (.click (← s.locate l))
  | .doubleClick l => do s.script (.doubleClick (← s.locate l))
  | .rightClick l => do s.script (.contextClick (← s.locate l))
  | .hover l => do s.script (.hover (← s.locate l))
  | .clearText l => do s.script (.clear (← s.locate l))
  | .selectDropdown l option => do s.script (.selectOption (← s.locate l) option)
  | .assertElementText l expected => do
    let actual : String ← s.script (.textOf (← s.locate l))
    let actual := Text.trim actual
    expect (actual = expected) (.text l expected actual)
  | .assertElementCount l expected => do
    let actual : Nat ← s.script (.count l)
    expect (actual = expected) (.count l expected actual)
  | .assertElementVisible l => s.assertVisible l
  | .assertElementNotVisible l => s.assertNotVisible l
  | .assertElementAttribute l name expected => do
    let actual : Option String ← s.script (.attributeOf (← s.locate l) name)
    let actual := actual.getD "null"
    expect (actual = expected) (.attributeValue l name expected actual)
  | .assertUrlContains expected => do
    let url : String ← s.script .currentUrl
    expect (Text.contains expected url) (.address expected url)
  | .assertTitleContains expected => do
    let title : String ← s.script .title
    expect (Text.contains expected title) (.title expected title)
  | .waitForElement l => do
    let _ ← s.locate l
  | .waitForText l text => s.awaitText l text
  | .refresh => s.load .refresh
  | .back => s.load .back
  | .forward => s.load .forward
  | .wait span => pause span

/-- Carry out the action of a step, then leave the page alone for a while. -/
def execute (s : Session) (step : Scenario.Step) : Attempt Unit := do
  s.perform step.action
  if step.waitTime ≠ .zero then pause step.waitTime

end Session
end Run
end Walkthrough
