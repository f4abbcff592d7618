import Walkthrough.Config.Environment
import Walkthrough.Config.Master
import Walkthrough.Files.Tree

/-!
# Walkthrough.Config.Plan

Everything that a run is given before its first scenario: a master configuration and the profile of
an environment, read from a tree of files.

* `rebase` takes a relative path from the directory of the configuration.
* `load` reads both documents; `Refusal.message` is the wording of what may go wrong.
-/

namespace Walkthrough
namespace Config

open Files

/-- What a run works from. -/
structure Plan where
  master : Master
  environment : Environment

/-- Why a configuration cannot be loaded. -/
inductive Refusal where
  | masterUnreadable (path : String) (fault : Files.Fault)
  | masterRefused (path : String) (fault : Json.Fault)
  | environmentUnreadable (path : String) (fault : Files.Fault)
  | environmentRefused (path : String) (fault : Json.Fault)
  | environmentUnresolved (path : String) (failure : Failure)
  | profileInvalid (path : String) (fault : Json.Fault)
  | directoryUnreadable (path : String) (fault : Files.Fault)
deriving DecidableEq, Repr

def Refusal.message : Refusal → String
  | .masterUnreadable path f => "Failed to read master config: " ++ path ++ ": " ++ f.message
  | .masterRefused path f => "Failed to parse master config: " ++ path ++ ": " ++ f.message
  | .environmentUnreadable path f => "Failed to read environment: " ++ path ++ ": " ++ f.message
  | .environmentRefused path f => "Failed to parse environment: " ++ path ++ ": " ++ f.message
  | .environmentUnresolved path f =>
    "Failed to resolve environment: " ++ path ++ ": " ++ f.message
  | .profileInvalid path f => "Invalid environment profile: " ++ path ++ ": " ++ f.message
  | .directoryUnreadable path f => "Failed to read directory: " ++ path ++ ": " ++ f.message

/-- The failure behind a refusal, if it is one of a template. -/
def Refusal.failure? : Refusal → Option Failure
  | .environmentUnresolved _ f => some f
  | _ => none

/-- A path of the configuration, seen from where the configuration was looked up. -/
def rebase (base path : String) : String := Path.join base path

def Entry.rebase (base : String) (e : Entry) : Entry :=
  { e with
    scenarioFile := Config.rebase base e.scenarioFile
    testDataFile := if e.testDataFile.isEmpty then "" else Config.rebase base e.testDataFile }

def Reporting.rebase (base : String) (r : Reporting) : Reporting :=
  { r with
    reportDirectory := Config.rebase base r.reportDirectory
    screenshotDirectory := Config.rebase base r.screenshotDirectory
    videoDirectory := Config.rebase base r.videoDirectory }

/-- The configuration with every path seen from where the configuration was looked up. -/
def Master.rebase (base : String) (m : Master) : Master :=
  { m with
    reporting := m.reporting.rebase base
    scenarios := m.scenarios.map (Entry.rebase base) }

/-- Read a master configuration. Its relative paths start in the directory of the file. -/
def Master.load (tree : Tree) (path : String) : Except Refusal Master :=
  match tree.readText path with
  | .error f => .error (.masterUnreadable path f)
  | .ok text =>
    match Master.parse text with
    | .error f => .error (.masterRefused path f)
    | .ok m => .ok (m.rebase ((Path.parent? path).getD ""))

/-- Read the profile of an environment and fill in the variables of the process. -/
def Environment.load (tree : Tree) (vars : String → Option String) (path : String) :
    Except Refusal Environment :=
  match tree.readText path with
  | .error f => .error (.environmentUnreadable path f)
  | .ok text =>
    match Json.parse text with
    | .error f => .error (.environmentRefused path f)
    | .ok v =>
      match substitute vars "environment" v with
      | .error f => .error (.environmentUnresolved path f)
      | .ok v =>
        match Environment.ofValue v with
        | .error f => .error (.profileInvalid path f)
        | .ok e => .ok e

/-- The end of the name of every file with a profile. -/
def profileEnding : String := "_environment.json"

/-- Where profiles are looked for unless another directory is named. -/
def defaultProfileDirectory : String := "config/environments"

/-- The file with the profile of an environment. -/
def profilePath (directory id : String) : String := Path.join directory (id ++ profileEnding)

/-- The environment that the name of a file belongs to. -/
def profileId? (fileName : String) : Option String :=
  let name := fileName.toList
  let ending := profileEnding.toList
  if ending.isSuffixOf name && ending.length < name.length then
    some (String.ofList (Text.dropEnd ending.length name))
  else none

/-- The environments with a profile in a directory, in order. -/
def listEnvironments (tree : Tree) (directory : String) : Except Refusal (List String) :=
  match tree.list directory with
  | .error f => .error (.directoryUnreadable directory f)
  | .ok names =>
    let ids := names.filterMap fun name =>
      if tree.isFile (Path.join directory name) then profileId? name else none
    .ok (ids.mergeSort fun a b => a ≤ b)

namespace Plan

/-- A run without a profile waits for elements as long as the framework settings say. -/
def withoutEnvironment (master : Master) : Plan where
  master := master
  environment :=
    { Environment.default with
      timeouts := { Timeouts.default with elementWaitTimeout := master.framework.explicitWait } }

/-- Read what a run works from. -/
def load (tree : Tree) (vars : String → Option String) (path : String)
    (environment : Option String) (directory : String) : Except Refusal Plan := do
  let master ← Master.load tree path
  match environment with
  | none => .ok (withoutEnvironment master)
  | some id =>
    let profile ← Environment.load tree vars (profilePath directory id)
    .ok ⟨master, profile⟩

/-- The entries that a run takes, in order. -/
def selected (plan : Plan) : List Entry := select plan.master.scenarios

end Plan
end Config
end Walkthrough
