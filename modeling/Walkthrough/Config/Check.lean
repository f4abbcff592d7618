import Walkthrough.Config.Plan
import Walkthrough.Scenario.Definition

/-!
# Walkthrough.Config.Check

What is looked at before a run: the settings, the limits, the list of scenarios, and whether every
scenario that the run takes can be loaded.

* `preflight` separates what makes any run pointless from scenarios that will fail.
* `scenarioProblem?` gives one problem for an entry that cannot be loaded and none for another.
-/

namespace Walkthrough
namespace Config

/-- Something wrong with a configuration. -/
inductive Problem where
  | browser (name : String)
  | negativeWait (field : String) (seconds : Binary64)
  | noWorkers
  | runTimeout (seconds : Binary64)
  | webdriverUrl (url : String) (fault : Url.Fault)
  | timeout (field : String) (seconds : Binary64)
  | fps
  | quality (name : String)
  | noScenarios
  | execute (scenario mark : String)
  | listedTwice (scenario : String)
  | fileMissing (part : Part) (scenario path : String)
  | notLoadable (scenario : String) (failure : Failure)
deriving DecidableEq, Repr

/-- The browsers that can be driven. -/
def browsers : List String := ["chrome", "firefox", "edge"]

/-- The qualities of a video. -/
def qualities : List String := ["low", "medium", "high"]

def Problem.message : Problem → String
  | .browser name =>
    "unsupported browser '" ++ name ++ "' (expected one of: " ++ String.intercalate ", " browsers
      ++ ")"
  | .negativeWait field x =>
    "framework_config." ++ field ++ " must be non-negative, got " ++ x.plain
  | .noWorkers => "framework_config.max_parallel_workers must be at least 1"
  | .runTimeout x => "framework_config.run_timeout must be positive, got " ++ x.plain
  | .webdriverUrl url f =>
    "framework_config.webdriver_url '" ++ url ++ "' is not a valid URL: " ++ f.message
  | .timeout field x => "timeout_settings." ++ field ++ " must be positive, got " ++ x.plain
  | .fps => "video_config.fps must be at least 1"
  | .quality name =>
    "video_config.quality '" ++ name ++ "' must be one of: " ++ String.intercalate ", " qualities
  | .noScenarios => "test_scenarios is empty"
  | .execute scenario mark =>
    "scenario '" ++ scenario ++ "': execute must be \"y\" or \"n\", got \"" ++ mark ++ "\""
  | .listedTwice scenario => "scenario '" ++ scenario ++ "' is listed more than once"
  | .fileMissing part scenario path =>
    "scenario '" ++ scenario ++ "': " ++ part.name ++ " file not found: " ++ path
  | .notLoadable scenario failure => "scenario '" ++ scenario ++ "': " ++ failure.message

/-- A problem that is there under a condition. -/
def problemIf (condition : Bool) (p : Problem) : List Problem := if condition then [p] else []

/-- Is this no number of seconds from zero on? -/
def isNoWait (x : Binary64) : Bool := !x.isFinite || x.isBelowZero

def Framework.problems (f : Framework) : List Problem :=
  problemIf (!browsers.contains (Text.lowerAscii f.browser)) (.browser f.browser)
    ++ problemIf (isNoWait f.implicitWait) (.negativeWait "implicit_wait" f.implicitWait)
    ++ problemIf (isNoWait f.explicitWait) (.negativeWait "explicit_wait" f.explicitWait)
    ++ problemIf (f.maxParallelWorkers = 0) .noWorkers
    ++ (match f.runTimeout with
      | none => []
      | some x => problemIf (!(x.isFinite && x.isAboveZero)) (.runTimeout x))
    ++ (match Url.parse none f.webdriverUrl with
      | .ok _ => []
      | .error e => [.webdriverUrl f.webdriverUrl e])

def Timeouts.problems (t : Timeouts) : List Problem :=
  let positive (x : Binary64) : Bool := x.isFinite && x.isAboveZero
  problemIf (!positive t.pageLoadTimeout) (.timeout "page_load_timeout" t.pageLoadTimeout)
    ++ problemIf (!(positive t.elementWaitTimeout || t.elementWaitTimeout.isZero))
      (.timeout "element_wait_timeout" t.elementWaitTimeout)
    ++ problemIf (!positive t.scriptTimeout) (.timeout "script_timeout" t.scriptTimeout)

def Video.problems (v : Video) : List Problem :=
  problemIf (v.fps = 0) .fps
    ++ problemIf (!qualities.contains (Text.lowerAscii v.quality)) (.quality v.quality)

/-- The problems of entries that come after those of the given names. -/
def entryProblems : List String → List Entry → List Problem
  | _, [] => []
  | seen, e :: rest =>
    let mark := Text.lowerAscii (Text.trim e.execute)
    problemIf (mark ≠ "y" && mark ≠ "n") (.execute e.name e.execute)
      ++ problemIf (seen.contains e.name) (.listedTwice e.name)
      ++ entryProblems (e.name :: seen) rest

def listProblems (entries : List Entry) : List Problem :=
  problemIf entries.isEmpty .noScenarios ++ entryProblems [] entries

/-- What makes any run of a plan pointless. -/
def Plan.settingsProblems (plan : Plan) : List Problem :=
  plan.master.framework.problems ++ plan.environment.timeouts.problems
    ++ plan.master.video.problems ++ listProblems plan.master.scenarios

/-- Why an entry cannot be loaded. -/
def scenarioProblem? (env : Environment) (tree : Files.Tree) (e : Entry) : Option Problem :=
  if !tree.isFile e.scenarioFile then some (.fileMissing .scenario e.name e.scenarioFile)
  else if !e.testDataFile.isEmpty && !tree.isFile e.testDataFile then
    some (.fileMissing .testData e.name e.testDataFile)
  else
    match Scenario.load env tree e with
    | .ok _ => none
    | .error f => some (.notLoadable e.name f)

/-- The problems of the entries that a run takes, in the order of the configuration. -/
def Plan.scenarioProblems (plan : Plan) (tree : Files.Tree) : List Problem :=
  (plan.master.scenarios.filter Entry.isSelected).filterMap
    (scenarioProblem? plan.environment tree)

/-- What was found before a run. -/
structure Preflight where
  /-- No scenario can run in a meaningful way. -/
  fatal : List Problem
  /-- These scenarios will be reported as failed; the others can run. -/
  scenarios : List Problem

namespace Preflight

def isClean (p : Preflight) : Bool := p.fatal.isEmpty && p.scenarios.isEmpty

/-- Every problem, those of the settings first. -/
def all (p : Preflight) : List Problem := p.fatal ++ p.scenarios

end Preflight

def preflight (plan : Plan) (tree : Files.Tree) : Preflight :=
  ⟨plan.settingsProblems, plan.scenarioProblems tree⟩

end Config
end Walkthrough
