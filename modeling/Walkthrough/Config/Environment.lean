import Walkthrough.Duration
import Walkthrough.Failure
import Walkthrough.Json.Schema
import Walkthrough.Template

/-!
# Walkthrough.Config.Environment

What a run knows about the place where it runs: the base address, limits, the browser window, and
data for templates.

* `Timeouts` holds the limits in seconds, as written; `pageLoad`, `elementWait` and `script` are
  the limits that are armed.
* `substitute` fills in the variables of the process in every string of a document.
-/

namespace Walkthrough
namespace Config

open Json

/-- Limits in seconds. -/
structure Timeouts where
  pageLoadTimeout : Binary64
  elementWaitTimeout : Binary64
  scriptTimeout : Binary64

namespace Timeouts

def default : Timeouts := ⟨Binary64.ofNat 30, Binary64.ofNat 15, Binary64.ofNat 10⟩

instance : Inhabited Timeouts := ⟨default⟩

def schema : Schema :=
  .record "TimeoutSettings"
    (.optional "page_load_timeout" .real <| .optional "element_wait_timeout" .real <|
      .optional "script_timeout" .real .nil)

def ofFields : schema.Denote → Timeouts
  | (pageLoad, elementWait, script, ()) =>
    { pageLoadTimeout := pageLoad.getD default.pageLoadTimeout
      elementWaitTimeout := elementWait.getD default.elementWaitTimeout
      scriptTimeout := script.getD default.scriptTimeout }

def fields (t : Timeouts) : schema.Denote :=
  (some t.pageLoadTimeout, some t.elementWaitTimeout, some t.scriptTimeout, ())

theorem ofFields_fields (t : Timeouts) : ofFields t.fields = t := rfl

/-- The limit of a call that loads a page. -/
def pageLoad (t : Timeouts) : Duration := .saturating t.pageLoadTimeout

/-- How long to wait for an element or its text. -/
def elementWait (t : Timeouts) : Duration := .saturating t.elementWaitTimeout

/-- The limit of every other call. -/
def script (t : Timeouts) : Duration := .saturating t.scriptTimeout

end Timeouts

/-- The size of a browser window. -/
structure WindowSize where
  width : Nat
  height : Nat
deriving DecidableEq, Repr

namespace WindowSize

def default : WindowSize := ⟨1920, 1080⟩

def schema : Schema :=
  .record "WindowSize" (.required "width" .u32 <| .required "height" .u32 .nil)

def ofFields : schema.Denote → WindowSize
  | (width, height, ()) => ⟨width, height⟩

def fields (w : WindowSize) : schema.Denote := (w.width, w.height, ())

end WindowSize

/-- How the browser is started. -/
structure BrowserSettings where
  window : WindowSize
  headless : Bool
  incognito : Bool
deriving DecidableEq, Repr

namespace BrowserSettings

def default : BrowserSettings := ⟨WindowSize.default, false, true⟩

instance : Inhabited BrowserSettings := ⟨default⟩

def schema : Schema :=
  .record "BrowserSettings"
    (.optional "window_size" WindowSize.schema <| .optional "headless" .flag <|
      .optional "incognito" .flag .nil)

def ofFields : schema.Denote → BrowserSettings
  | (window, headless, incognito, ()) =>
    { window := (window.map WindowSize.ofFields).getD default.window
      headless := headless.getD default.headless
      incognito := incognito.getD default.incognito }

def fields (b : BrowserSettings) : schema.Denote :=
  (some b.window.fields, some b.headless, some b.incognito, ())

theorem ofFields_fields (b : BrowserSettings) : ofFields b.fields = b := rfl

end BrowserSettings

/-- The profile of an environment. -/
structure Environment where
  name : String
  id : String
  description : String
  baseUrl : String
  timeouts : Timeouts
  browser : BrowserSettings
  credentials : List (String × Value)
  testData : List (String × Value)
  apiEndpoints : List (String × Value)
  featureFlags : List (String × Bool)

namespace Environment

def default : Environment where
  name := "default"
  id := "default"
  description := ""
  baseUrl := ""
  timeouts := Timeouts.default
  browser := BrowserSettings.default
  credentials := []
  testData := []
  apiEndpoints := []
  featureFlags := []

instance : Inhabited Environment := ⟨default⟩

def schema : Schema :=
  .record "EnvironmentProfile"
    (.optional "environment_name" .text <| .optional "environment_id" .text <|
      .optional "description" .text <| .optional "base_url" .text <|
      .optional "timeout_settings" Timeouts.schema <|
      .optional "browser_settings" BrowserSettings.schema <|
      .optional "credentials" (.table .any) <| .optional "test_data" (.table .any) <|
      .optional "api_endpoints" (.table .any) <|
      .optional "feature_flags" (.table .flag) .nil)

def ofFields : schema.Denote → Environment
  | (name, id, description, baseUrl, timeouts, browser, credentials, testData, apiEndpoints,
      featureFlags, ()) =>
    { name := name.getD default.name
      id := id.getD default.id
      description := description.getD default.description
      baseUrl := baseUrl.getD default.baseUrl
      timeouts := (timeouts.map Timeouts.ofFields).getD default.timeouts
      browser := (browser.map BrowserSettings.ofFields).getD default.browser
      credentials := credentials.getD []
      testData := testData.getD []
      apiEndpoints := apiEndpoints.getD []
      featureFlags := featureFlags.getD [] }

def fields (e : Environment) : schema.Denote :=
  (some e.name, some e.id, some e.description, some e.baseUrl, some e.timeouts.fields,
    some e.browser.fields, some e.credentials, some e.testData, some e.apiEndpoints,
    some e.featureFlags, ())

theorem ofFields_fields (e : Environment) : ofFields e.fields = e := rfl

def parse (text : String) : Except Json.Fault Environment := (schema.parse text).map ofFields

def ofValue (v : Value) : Except Json.Fault Environment := (schema.ofValue v).map ofFields

/-- The profile as a document. -/
def toValue (e : Environment) : Value := schema.toValue e.fields

/-- Is a feature switched on? One that is not listed is off. -/
def isEnabled (e : Environment) (feature : String) : Bool :=
  (lookup feature e.featureFlags).getD false

end Environment

/-- The value of a variable among those of a process, each of which is written `NAME=value`. -/
def processVariable? (vars : List (String × String)) (name : String) : Option String :=
  if name.isEmpty then none
  else vars.findSome? fun v =>
    let line := (v.1 ++ "=" ++ v.2).toList
    let front := (name ++ "=").toList
    if front.isPrefixOf line then some (String.ofList (line.drop front.length)) else none

mutual

/-- Fill in the variables in every string of a value, whose dotted name is `path`. -/
def substitute (vars : String → Option String) (path : String) : Value → Except Failure Value
  | .null => .ok .null
  | .boolean b => .ok (.boolean b)
  | .number n => .ok (.number n)
  | .text s =>
    match Template.resolve vars s with
    | .ok t => .ok (.text t)
    | .error name => .error (.unresolved name path)
  | .array items => (substituteItems vars path 0 items).map .array
  | .object members => (substituteMembers vars path members).map .object

def substituteItems (vars : String → Option String) (path : String) (index : Nat) :
    List Value → Except Failure (List Value)
  | [] => .ok []
  | v :: rest => do
    let v ← substitute vars (path ++ "." ++ Nat.repr index) v
    return v :: (← substituteItems vars path (index + 1) rest)

def substituteMembers (vars : String → Option String) (path : String) :
    List (String × Value) → Except Failure (List (String × Value))
  | [] => .ok []
  | (key, v) :: rest => do
    let v ← substitute vars (path ++ "." ++ key) v
    return (key, v) :: (← substituteMembers vars path rest)

end

end Config
end Walkthrough
