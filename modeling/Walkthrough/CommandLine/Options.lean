import Walkthrough.Config.Overrides

/-!
# Walkthrough.CommandLine.Options

The arguments of the program. A setting that no argument gives may come from a variable of the
process, and else has a default.

* `read` goes through the arguments; a setting or a flag that is given twice is a misuse.
* `wish` is what the program is asked for.
-/

namespace Walkthrough
namespace CommandLine

/-- What an option with a value says. -/
inductive Setting where
  | config
  | environment
  | profileDirectory
  | filter
  | webdriverUrl
deriving DecidableEq, Repr

namespace Setting

def all : List Setting := [.config, .environment, .profileDirectory, .filter, .webdriverUrl]

/-- The option in messages. -/
def usage : Setting → String
  | .config => "--config <CONFIG>"
  | .environment => "--environment <ENVIRONMENT>"
  | .profileDirectory => "--environments-dir <ENVIRONMENTS_DIR>"
  | .filter => "--filter <FILTER>"
  | .webdriverUrl => "--webdriver-url <WEBDRIVER_URL>"

/-- The variable that stands in for the option. -/
def standIn? : Setting → Option String
  | .config => some "UISCENARIO_CONFIG"
  | .environment => some "UISCENARIO_ENVIRONMENT"
  | .profileDirectory => some "UISCENARIO_ENVIRONMENTS_DIR"
  | .filter => none
  | .webdriverUrl => some "WEBDRIVER_URL"

/-- Is the value a path? A path is not empty. -/
def isPath : Setting → Bool
  | .config | .profileDirectory => true
  | _ => false

end Setting

/-- An option without a value. -/
inductive Flag where
  | parallel
  | verbose
  | validateOnly
deriving DecidableEq, Repr

def Flag.usage : Flag → String
  | .parallel => "--parallel"
  | .verbose => "--verbose"
  | .validateOnly => "--validate-only"

inductive Switch where
  | setting (s : Setting)
  | flag (f : Flag)
  | help
  | version
deriving DecidableEq, Repr

/-- The switches after two dashes. -/
def longSwitches : List (String × Switch) :=
  [("config", .setting .config), ("environment", .setting .environment),
    ("environments-dir", .setting .profileDirectory), ("filter", .setting .filter),
    ("webdriver-url", .setting .webdriverUrl), ("parallel", .flag .parallel),
    ("verbose", .flag .verbose), ("validate-only", .flag .validateOnly), ("help", .help),
    ("version", .version)]

/-- The switches after a single dash. -/
def shortSwitches : List (Char × Switch) :=
  [('c', .setting .config), ('e', .setting .environment), ('f', .setting .filter),
    ('v', .flag .verbose), ('h', .help), ('V', .version)]

/-- What is wrong with the arguments. -/
inductive Misuse where
  | unexpected (argument : String)
  | valueMissing (s : Setting)
  | valueUnexpected (value : String) (usage : String)
  | givenTwice (usage : String)
deriving DecidableEq, Repr

def Misuse.message : Misuse → String
  | .unexpected argument => "unexpected argument '" ++ argument ++ "' found"
  | .valueMissing s => "a value is required for '" ++ s.usage ++ "' but none was supplied"
  | .valueUnexpected value usage =>
    "unexpected value '" ++ value ++ "' for '" ++ usage ++ "' found; no more were expected"
  | .givenTwice usage => "the argument '" ++ usage ++ "' cannot be used multiple times"

/-- Why no run is asked for. -/
inductive Stop where
  | help
  | version
  | misuse (m : Misuse)
deriving DecidableEq, Repr

/-- What arguments have said so far. -/
structure Given where
  values : List (Setting × String)
  flags : List Flag
deriving DecidableEq, Repr

namespace Given

def none : Given := ⟨[], []⟩

def value? (g : Given) (s : Setting) : Option String := g.values.lookup s

/-- Note the value of a setting. -/
def give (g : Given) (s : Setting) (value : String) : Except Stop Given :=
  if (g.value? s).isSome then .error (.misuse (.givenTwice s.usage))
  else if s.isPath && value.isEmpty then .error (.misuse (.valueMissing s))
  else .ok { g with values := (s, value) :: g.values }

/-- Note a flag. -/
def raise (g : Given) (f : Flag) : Except Stop Given :=
  if g.flags.contains f then .error (.misuse (.givenTwice f.usage))
  else .ok { g with flags := f :: g.flags }

end Given

/-- What an argument has led to: the next one may be the value of a setting. -/
inductive Progress where
  | done (g : Given)
  | wants (s : Setting) (g : Given)

/-- Read a switch that may have a value attached. -/
def readSwitch (g : Given) (attached : Option String) : Switch → Except Stop Progress
  | .setting s =>
    match attached with
    | .none => .ok (.wants s g)
    | some value => Progress.done <$> g.give s value
  | .flag f =>
    match attached with
    | .none => Progress.done <$> g.raise f
    | some value => .error (.misuse (.valueUnexpected value f.usage))
  | .help => .error .help
  | .version => .error .version

/-- Read the switches after a single dash; what follows one with a value is the value, whether or
not an equals sign comes first. -/
def readCluster (argument : String) : List Char → Given → Except Stop Progress
  | [], g => .ok (.done g)
  | c :: cs, g =>
    match shortSwitches.lookup c with
    | .none => .error (.misuse (.unexpected argument))
    | some (.setting s) =>
      match cs with
      | [] => .ok (.wants s g)
      | '=' :: value => Progress.done <$> g.give s (String.ofList value)
      | value => Progress.done <$> g.give s (String.ofList value)
    | some (.flag f) => do readCluster argument cs (← g.raise f)
    | some .help => .error .help
    | some .version => .error .version

/-- Read an argument. -/
def readArgument (argument : String) (g : Given) : Except Stop Progress :=
  match argument.toList with
  | '-' :: '-' :: cs =>
    let (name, attached) := match Text.splitFirst '=' cs with
      | .none => (cs, .none)
      | some (name, value) => (name, some (String.ofList value))
    match longSwitches.lookup (String.ofList name) with
    | .none => .error (.misuse (.unexpected argument))
    | some switch => readSwitch g attached switch
  | '-' :: c :: cs => readCluster argument (c :: cs) g
  | _ => .error (.misuse (.unexpected argument))

/-- Does the argument look like a switch? A single dash does not. -/
def isSwitch (argument : String) : Bool :=
  argument.toList.head? = some '-' && 1 < argument.length

/-- Read arguments. Nothing may follow two dashes. -/
def read : List String → Given → Except Stop Given
  | [], g => .ok g
  | argument :: rest, g => do
    if argument = "--" then
      match rest with
      | [] => return g
      | next :: _ => .error (.misuse (.unexpected next))
    else
      match ← readArgument argument g with
      | .done g => read rest g
      | .wants s g =>
        match rest with
        | [] => .error (.misuse (.valueMissing s))
        | value :: rest =>
          if isSwitch value then .error (.misuse (.valueMissing s))
          else read rest (← g.give s value)

/-- Take the settings that no argument has given from the variables of the process. -/
def fillIn (vars : String → Option String) (g : Given) : Except Stop Given :=
  Setting.all.foldlM (fun g s =>
    match g.value? s, s.standIn?.bind vars with
    | .none, some value => g.give s value
    | _, _ => .ok g) g

/-- How the program is to run. -/
structure Options where
  config : String
  environment : Option String
  profileDirectory : String
  overrides : Config.Overrides
  verbose : Bool
  /-- Look at the configuration and the scenarios, and run nothing. -/
  validateOnly : Bool
deriving DecidableEq, Repr

/-- The configuration that is looked for unless another one is named. -/
def defaultConfig : String := "config/master_config.json"

def Options.ofGiven (g : Given) : Options where
  config := (g.value? .config).getD defaultConfig
  environment := g.value? .environment
  profileDirectory := (g.value? .profileDirectory).getD Config.defaultProfileDirectory
  overrides :=
    { webdriverUrl := g.value? .webdriverUrl
      parallel := g.flags.contains .parallel
      filter := g.value? .filter }
  verbose := g.flags.contains .verbose
  validateOnly := g.flags.contains .validateOnly

/-- What arguments and variables ask for. -/
def wish (vars : String → Option String) (arguments : List String) : Except Stop Options := do
  return Options.ofGiven (← fillIn vars (← read arguments .none))

end CommandLine
end Walkthrough
