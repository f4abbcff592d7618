import Walkthrough.Json.Printer
import Walkthrough.Json.Schema

/-!
# Walkthrough.Scenario.File

Scenario files as they are written: information about the scenario and its raw steps, whose texts
are templates.

* `RawStep.template` is the text of a value, whatever its kind.
* `ofFields_fields` and its siblings say that nothing is lost when a file is written.
-/

namespace Walkthrough
namespace Scenario

open Json

/-- What a scenario file says about itself. -/
structure Info where
  name : String
  description : String
  url : String
  expectedDuration : Option Value
  tags : List String

namespace Info

def schema : Schema :=
  .record "ScenarioInfo"
    (.required "name" .text <| .optional "description" .text <| .optional "url" .text <|
      .optional "expected_duration" (.optional .any) <| .optional "tags" (.list .text) .nil)

def ofFields : schema.Denote → Info
  | (name, description, url, expectedDuration, tags, ()) =>
    { name := name
      description := description.getD ""
      url := url.getD ""
      expectedDuration := expectedDuration.getD none
      tags := tags.getD [] }

def fields (i : Info) : schema.Denote :=
  (i.name, some i.description, some i.url, some i.expectedDuration, some i.tags, ())

theorem ofFields_fields (i : Info) : ofFields i.fields = i := rfl

def parse (text : String) : Except Json.Fault Info := (schema.parse text).map ofFields

end Info

/-- The text of a value that may be written as text or otherwise. -/
def plainText : Value → String
  | .text s => s
  | v => compact v

/-- A step as it is written. -/
structure RawStep where
  id : Nat
  name : String
  action : String
  target : String
  value : Value
  /-- How many seconds the page is left alone after the action. -/
  waitTime : Binary64
  screenshot : Bool

namespace RawStep

def schema : Schema :=
  .record "RawStep"
    (.required "step_id" .u32 <| .required "step_name" .text <| .required "action" .text <|
      .optional "target" .text <| .optional "value" .any <| .optional "wait_time" .real <|
      .optional "screenshot" .flag .nil)

def ofFields : schema.Denote → RawStep
  | (id, name, action, target, value, waitTime, screenshot, ()) =>
    { id := id
      name := name
      action := action
      target := target.getD ""
      value := value.getD .null
      waitTime := waitTime.getD (Binary64.ofNat 0)
      screenshot := screenshot.getD false }

def fields (s : RawStep) : schema.Denote :=
  (s.id, s.name, s.action, some s.target, some s.value, some s.waitTime, some s.screenshot, ())

theorem ofFields_fields (s : RawStep) : ofFields s.fields = s := rfl

/-- The template of the value. No value is the empty text. -/
def template (s : RawStep) : String :=
  match s.value with
  | .null => ""
  | v => plainText v

end RawStep

/-- A scenario file. -/
structure File where
  info : Info
  steps : List RawStep

namespace File

def schema : Schema :=
  .record "ScenarioFile"
    (.required "scenario_info" Info.schema <|
      .required "test_steps" (.list RawStep.schema) .nil)

def ofFields : schema.Denote → File
  | (info, steps, ()) => ⟨Info.ofFields info, steps.map RawStep.ofFields⟩

def fields (f : File) : schema.Denote := (f.info.fields, f.steps.map RawStep.fields, ())

theorem ofFields_fields (f : File) : ofFields f.fields = f := by
  obtain ⟨info, steps⟩ := f
  simp only [fields, ofFields, List.map_map, Info.ofFields_fields]
  congr 1
  exact List.map_id' steps

def parse (text : String) : Except Json.Fault File := (schema.parse text).map ofFields

/-- The file as a document. -/
def toValue (f : File) : Value := schema.toValue f.fields

/-- The text of a scenario file. -/
def render (f : File) : String := pretty f.toValue

end File
end Scenario
end Walkthrough
