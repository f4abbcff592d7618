import Walkthrough.Action.Kind
import Walkthrough.Binary64.Digits
import Walkthrough.Files.Tree
import Walkthrough.Json.Fault
import Walkthrough.Url.Fault

/-!
# Walkthrough.Config.Fault

What can be wrong with the documents that describe a run, apart from unresolved names and
locators.

* `Fault.message` is the wording of every complaint.
-/

namespace Walkthrough
namespace Config

/-- A file that a scenario consists of. -/
inductive Part where
  | scenario
  | testData
deriving DecidableEq, Repr

def Part.name : Part → String
  | .scenario => "scenario"
  | .testData => "test data"

inductive Fault where
  | unsupportedAction (word : String)
  | optionMissing
  /-- An action on an element was given none. -/
  | locatorMissing (kind : Action.Kind)
  /-- The expected number of elements is none. -/
  | notACount (value : String)
  /-- An attribute check has no equals sign or no attribute. -/
  | notAnAttributeCheck (value : String)
  | notSeconds (value : String)
  /-- A span of time below zero or without a value. -/
  | negativeSeconds (field : String) (seconds : Binary64)
  | tooManySeconds (field : String) (seconds : Binary64)
  | unreadable (part : Part) (path : String) (fault : Files.Fault)
  | scenarioRefused (path : String) (fault : Json.Fault)
  | testDataRefused (path : String) (fault : Json.Fault)
  | testDataNoObject (path : String)
  | noSteps (scenario : String)
  /-- The number of a step is not above that of the step before it. -/
  | stepOrder (step previous : Nat)
  /-- Neither the step nor the scenario says where to go. -/
  | nowhereToGo
  | relativeAddress (address : String)
  | invalidBase (base : String) (fault : Url.Fault)
  | cannotJoin (address base : String) (fault : Url.Fault)
  | stated (message : String)
deriving DecidableEq, Repr

def Fault.message : Fault → String
  | .unsupportedAction word => "unsupported action '" ++ word ++ "'"
  | .optionMissing => "select_dropdown needs the option value or text"
  | .locatorMissing kind => "action '" ++ kind.word ++ "' is missing its locator"
  | .notACount value =>
    "assert_element_count expects a non-negative integer, got '" ++ value ++ "'"
  | .notAnAttributeCheck value =>
    "assert_element_attribute expects 'attribute=expected', got '" ++ value ++ "'"
  | .notSeconds value => "wait expects a number of seconds, got '" ++ value ++ "'"
  | .negativeSeconds field seconds =>
    field ++ " must be a non-negative number of seconds, got " ++ seconds.plain
  | .tooManySeconds field seconds =>
    field ++ " of " ++ seconds.plain ++ "s is out of range: "
      ++ "cannot convert float seconds to Duration: value is either too big or NaN"
  | .unreadable part path fault =>
    "failed to read " ++ part.name ++ " file " ++ path ++ ": " ++ fault.message
  | .scenarioRefused path fault =>
    "failed to parse scenario file " ++ path ++ ": " ++ fault.message
  | .testDataRefused path fault =>
    "failed to parse test data " ++ path ++ ": " ++ fault.message
  | .testDataNoObject path => "test data " ++ path ++ " must be a JSON object"
  | .noSteps scenario => "scenario '" ++ scenario ++ "' has no test_steps"
  | .stepOrder step previous =>
    "step_id " ++ Nat.repr step ++ " follows step_id " ++ Nat.repr previous
      ++ "; step ids must be unique and strictly increasing"
  | .nowhereToGo => "navigate has no value and the scenario has no url"
  | .relativeAddress address =>
    "relative URL '" ++ address ++ "' needs a base_url in the environment"
  | .invalidBase base fault => "invalid base_url '" ++ base ++ "': " ++ fault.message
  | .cannotJoin address base fault =>
    "cannot join '" ++ address ++ "' onto '" ++ base ++ "': " ++ fault.message
  | .stated message => message

end Config
end Walkthrough
