import Walkthrough.Config.Settings
import Walkthrough.Text.Blank
import Walkthrough.Text.Search

/-!
# Walkthrough.Config.Master

The master configuration: settings and the list of scenarios, of which a run takes those that are
marked, in the order of their priorities.

* `mem_select` says that a run takes exactly the marked entries.
-/

namespace Walkthrough
namespace Config

open Json

/-- A scenario in the list of a master configuration. -/
structure Entry where
  name : String
  scenarioFile : String
  /-- The file with test data; empty when there is none. -/
  testDataFile : String
  /-- Marks the entry for a run with a `y`. -/
  execute : String
  /-- The lowest runs first. -/
  priority : Int
deriving DecidableEq, Repr

namespace Entry

def defaultPriority : Int := 999

def schema : Schema :=
  .record "ScenarioEntry"
    (.required "name" .text <| .required "scenario_file" .path <|
      .required "test_data_file" .path <| .required "execute" .text <|
      .optional "priority" .integer .nil)

def ofFields : schema.Denote → Entry
  | (name, scenarioFile, testDataFile, execute, priority, ()) =>
    ⟨name, scenarioFile, testDataFile, execute, priority.getD defaultPriority⟩

def fields (e : Entry) : schema.Denote :=
  (e.name, e.scenarioFile, e.testDataFile, e.execute, some e.priority, ())

theorem ofFields_fields (e : Entry) : ofFields e.fields = e := rfl

/-- Does a run take this entry? -/
def isSelected (e : Entry) : Bool := Text.lowerAscii (Text.trim e.execute) = "y"

/-- Does `a` run before `b` when both are taken? Equal priorities keep their order. -/
def runsBefore (a b : Entry) : Bool := a.priority ≤ b.priority

end Entry

/-- The entries that a run takes, in the order in which it takes them. -/
def select (entries : List Entry) : List Entry :=
  (entries.filter Entry.isSelected).mergeSort Entry.runsBefore

theorem mem_select {e : Entry} {entries : List Entry} :
    e ∈ select entries ↔ e ∈ entries ∧ e.isSelected = true := by
  simp [select, List.mem_mergeSort]

/-- A master configuration. -/
structure Master where
  framework : Framework
  reporting : Reporting
  video : Video
  scenarios : List Entry

namespace Master

instance : Inhabited Master := ⟨⟨default, default, default, []⟩⟩

def schema : Schema :=
  .record "MasterConfig"
    (.optional "framework_config" Framework.schema <| .optional "reporting" Reporting.schema <|
      .optional "video_config" Video.schema <|
      .required "test_scenarios" (.list Entry.schema) .nil)

def ofFields : schema.Denote → Master
  | (framework, reporting, video, scenarios, ()) =>
    { framework := (framework.map Framework.ofFields).getD Framework.default
      reporting := (reporting.map Reporting.ofFields).getD Reporting.default
      video := (video.map Video.ofFields).getD Video.default
      scenarios := scenarios.map Entry.ofFields }

def fields (m : Master) : schema.Denote :=
  (some m.framework.fields, some m.reporting.fields, some m.video.fields,
    m.scenarios.map Entry.fields, ())

def parse (text : String) : Except Json.Fault Master := (schema.parse text).map ofFields

/-- The configuration as a document. -/
def toValue (m : Master) : Value := schema.toValue m.fields

end Master
end Config
end Walkthrough
