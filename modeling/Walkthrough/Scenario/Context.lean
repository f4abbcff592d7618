import Walkthrough.Config.Environment
import Walkthrough.Scenario.File
import Walkthrough.Variables

/-!
# Walkthrough.Scenario.Context

The variables that the templates of a scenario may use. They come from the environment, the test
data and the scenario itself, each source overriding those before it.

* `base` holds everything but the scenario's own entries; the address of the scenario is resolved
  against it.
-/

namespace Walkthrough
namespace Scenario

open Config Json

def flagText (b : Bool) : String := if b then "true" else "false"

/-- The variables of an environment. -/
def environmentVariables (env : Environment) : Variables :=
  let vars := Variables.empty.insert "base_url" env.baseUrl
  let vars := (vars.merge "" (.object env.credentials)).merge "credentials" (.object env.credentials)
  let vars := (vars.merge "" (.object env.testData)).merge "test_data" (.object env.testData)
  let vars := vars.merge "api_endpoints" (.object env.apiEndpoints)
  env.featureFlags.foldl (fun vars f => vars.insert ("feature_flags." ++ f.1) (flagText f.2)) vars

/-- The variables of an environment and of test data. -/
def base (env : Environment) (testData : Value) : Variables :=
  (environmentVariables env).merge "" testData

/-- A name of the scenario itself, alone and behind the word for scenarios. -/
def insertOwn (vars : Variables) (name value : String) : Variables :=
  (vars.insert name value).insert ("scenario_info." ++ name) value

/-- All variables of a scenario, and its address. -/
def context (env : Environment) (info : Info) (testData : Value) :
    Except Failure (Variables × String) := do
  let vars := base env testData
  let url ← vars.resolve info.url "scenario_info.url"
  let vars := insertOwn vars "name" info.name
  let vars := insertOwn vars "description" info.description
  return (insertOwn vars "url" url, url)

end Scenario
end Walkthrough
