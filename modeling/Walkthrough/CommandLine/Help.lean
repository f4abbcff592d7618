import Walkthrough.CommandLine.Options

/-!
# Walkthrough.CommandLine.Help

What the program says about itself.

* `helpText` lists the options with the variables that stand in for them, and their values.
* `Stop.text` is what is said instead of a run.
-/

namespace Walkthrough
namespace CommandLine

/-- The name of the program. -/
def programName : String := "uiscenario"

/-- The name and the version. -/
def versionText : String := programName ++ " 0.1.0"

/-- What the program is for. -/
def purpose : String := "Declarative JSON-based browser UI scenario testing engine"

namespace Setting

/-- The letter of the option, if it has one. -/
def letter? : Setting → Option Char
  | .config => some 'c'
  | .environment => some 'e'
  | .filter => some 'f'
  | _ => none

/-- What the option is for. -/
def purpose : Setting → String
  | .config => "Master configuration file"
  | .environment => "Environment profile id (loads `<id>_environment.json`)"
  | .profileDirectory => "Directory holding environment profiles"
  | .filter => "Only run scenarios whose name contains this text"
  | .webdriverUrl => "WebDriver endpoint override"

/-- The value without the option. -/
def default? : Setting → Option String
  | .config => some defaultConfig
  | .profileDirectory => some Config.defaultProfileDirectory
  | _ => none

end Setting

/-- An option and, on a line of its own, what it is for. -/
def helpEntry (letter? : Option Char) (usage purpose : String) : String :=
  let short := match letter? with
    | none => "    "
    | some c => "-" ++ String.singleton c ++ ", "
  "  " ++ short ++ usage ++ "\n          " ++ purpose ++ "\n"

/-- The entry of a setting. -/
def settingEntry (vars : String → Option String) (s : Setting) : String :=
  let standIn := match s.standIn? with
    | none => ""
    | some v => " [env: " ++ v ++ "=" ++ (vars v).getD "" ++ "]"
  let otherwise := match s.default? with
    | none => ""
    | some d => " [default: " ++ d ++ "]"
  helpEntry s.letter? s.usage (s.purpose ++ standIn ++ otherwise)

/-- What the program can be told. -/
def helpText (vars : String → Option String) : String :=
  purpose ++ "\n\nUsage: " ++ programName ++ " [OPTIONS]\n\nOptions:\n"
    ++ String.join (Setting.all.map (settingEntry vars))
    ++ helpEntry none Flag.parallel.usage "Force parallel execution"
    ++ helpEntry (some 'v') Flag.verbose.usage "Enable verbose logging"
    ++ helpEntry none Flag.validateOnly.usage "Validate configuration and scenarios, then exit"
    ++ helpEntry (some 'h') "--help" "Print help"
    ++ helpEntry (some 'V') "--version" "Print version"

/-- What the program prints when no run is asked for. -/
def Stop.text (vars : String → Option String) : Stop → String
  | .help => helpText vars
  | .version => versionText
  | .misuse m => "error: " ++ m.message ++ "\n\nFor more information, try '--help'."

end CommandLine
end Walkthrough
