import Walkthrough.Action.Basic
import Walkthrough.Config.Master
import Walkthrough.Files.Tree
import Walkthrough.Scenario.Context
import Walkthrough.Url.Parser

/-!
# Walkthrough.Scenario.Definition

Scenarios ready to run: every template resolved, every action built, every number checked.

* `RawStep.build` depends on the step and its surroundings only, not on the other steps.
* `buildSteps` fails with the first step that fails, the order of the numbers coming first.
* `load` reads the files of an entry and builds its scenario.
-/

namespace Walkthrough
namespace Scenario

open Config Json

/-- A step ready to run. -/
structure Step where
  id : Nat
  name : String
  /-- The target as it is written, with its places filled in. -/
  target : String
  template : String
  value : String
  action : Action
  waitTime : Duration
  screenshot : Bool
deriving DecidableEq, Repr

/-- A scenario ready to run. -/
structure Definition where
  name : String
  description : String
  url : String
  expectedDuration : Option String
  /-- Each tag once, in order. -/
  tags : List String
  steps : List Step
deriving DecidableEq, Repr

/-- What the steps of a scenario are built with. -/
structure Surroundings where
  vars : Variables
  /-- The address of the scenario. -/
  url : String
  baseUrl : String

/-- The address to navigate to. No value is the address of the scenario, a relative one is joined
to the base address. -/
def Surroundings.address (s : Surroundings) (value : String) : Except Config.Fault String :=
  let raw := Text.trim (if Text.isBlankText value then s.url else value)
  if raw.isEmpty then .error .nowhereToGo
  else
    match Url.parse none raw with
    | .ok url => .ok url.render
    | .error _ =>
      let base := Text.trim s.baseUrl
      if base.isEmpty then .error (.relativeAddress raw)
      else
        match Url.parse none base with
        | .error f => .error (.invalidBase base f)
        | .ok b =>
          match Url.join b raw with
          | .error f => .error (.cannotJoin raw base f)
          | .ok url => .ok url.render

/-- Where a field of a step stands in its file. -/
def fieldOf (id : Nat) (name : String) : String := "step " ++ Nat.repr id ++ " " ++ name

/-- A complaint about a configuration as a failure. -/
def orConfig {α : Type} : Except Config.Fault α → Except Failure α
  | .ok a => .ok a
  | .error f => .error (.config f)

/-- Build a step from what is written. -/
def RawStep.build (s : Surroundings) (raw : RawStep) : Except Failure Step := do
  let kind ← match Action.Kind.parse? raw.action with
    | some k => pure k
    | none => throw (.config (.unsupportedAction raw.action))
  let targetText ← s.vars.resolve raw.target (fieldOf raw.id "target")
  let value ← s.vars.resolve raw.template (fieldOf raw.id "value")
  let target ← Target.parse targetText
  let url ← if kind = .navigate then (orConfig (s.address value)).map some else pure none
  let action ← Action.build kind target targetText value url
  let waitTime ← orConfig (Action.spanOf (fieldOf raw.id "wait_time") raw.waitTime)
  return { id := raw.id, name := raw.name, target := targetText, template := raw.template,
           value, action, waitTime, screenshot := raw.screenshot }

/-- Build steps in order; the number of each is above `previous`, the one before it. -/
def buildSteps (s : Surroundings) : Option Nat → List RawStep → Except Failure (List Step)
  | _, [] => .ok []
  | previous, raw :: rest => do
    match previous with
    | some p => if raw.id ≤ p then throw (.config (.stepOrder raw.id p))
    | none => pure ()
    let step ← raw.build s
    return step :: (← buildSteps s (some raw.id) rest)

/-- Each text once, in order. -/
def distinct (xs : List String) : List String :=
  (orderMembers (xs.map fun x => (x, ()))).map (·.1)

/-- Build a scenario from its file and its test data. -/
def File.build (env : Environment) (file : File) (testData : Value) :
    Except Failure Definition := do
  if file.steps.isEmpty then throw (.config (.noSteps file.info.name))
  let (vars, url) ← context env file.info testData
  let steps ← buildSteps ⟨vars, url, env.baseUrl⟩ none file.steps
  return { name := file.info.name, description := file.info.description, url,
           expectedDuration := file.info.expectedDuration.map plainText,
           tags := distinct file.info.tags, steps }

/-- The text of a file that a scenario consists of. -/
def readPart (tree : Files.Tree) (part : Part) (path : String) : Except Failure String :=
  match tree.readText path with
  | .ok s => .ok s
  | .error f => .error (.config (.unreadable part path f))

/-- The test data of a scenario, which are an object. No path means no data. -/
def readTestData (tree : Files.Tree) (path : String) : Except Failure Value := do
  if path.isEmpty then return .object []
  let text ← readPart tree .testData path
  match Json.parse text with
  | .error f => throw (.config (.testDataRefused path f))
  | .ok v => if v.isObject then return v else throw (.config (.testDataNoObject path))

/-- Load the scenario of an entry. -/
def load (env : Environment) (tree : Files.Tree) (entry : Entry) : Except Failure Definition := do
  let text ← readPart tree .scenario entry.scenarioFile
  let file ← match File.parse text with
    | .ok f => pure f
    | .error f => throw (.config (.scenarioRefused entry.scenarioFile f))
  let testData ← readTestData tree entry.testDataFile
  file.build env testData

end Scenario
end Walkthrough
