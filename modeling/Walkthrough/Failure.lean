import Walkthrough.Browser.Fault
import Walkthrough.Config.Fault
import Walkthrough.Locator

/-!
# Walkthrough.Failure

Why a scenario cannot be loaded or a step does not pass.

* `Failure.message` is the wording of every failure and `Failure.kind` its class in reports.
* `Failure.isRetryable` says when another attempt may succeed.
-/

namespace Walkthrough

/-- Why a target does not fit. -/
inductive Failure.Misfit where
  | noLocator (fault : Locator.Fault)
  /-- An action on an element has the page as its target. -/
  | elementNeeded (kind : Action.Kind)
  /-- An action on the page has an element as its target. -/
  | pageNeeded (kind : Action.Kind)
  | stated (reason : String)
deriving DecidableEq, Repr

/-- What an assertion found instead of what it expected. -/
inductive Failure.Finding where
  | text (locator : Locator) (expected actual : String)
  | count (locator : Locator) (expected actual : Nat)
  | absent (locator : Locator)
  | hidden (locator : Locator)
  | shown (locator : Locator)
  | attributeValue (locator : Locator) (name expected actual : String)
  | address (expected actual : String)
  | title (expected actual : String)
  | stated (message : String)
deriving DecidableEq, Repr

/-- What took too long. -/
inductive Failure.Operation where
  | named (name : String)
  /-- A text that was awaited in an element. -/
  | awaiting (text : String) (locator : Locator)
deriving DecidableEq, Repr

inductive Failure where
  | config (fault : Config.Fault)
  | unresolved (name field : String)
  | target (text : String) (misfit : Failure.Misfit)
  | notFound (what : String)
  | timeout (operation : Failure.Operation) (seconds : Binary64)
  /-- The browser itself ran out of time. -/
  | browserTimeout (what : String)
  | assertion (finding : Failure.Finding)
  | browser (message : String) (transient : Bool)
  | cancelled
deriving DecidableEq, Repr

namespace Failure

/-- The class of a failure. -/
inductive Kind where
  | config
  | variableResolution
  | locator
  | elementNotFound
  | timeout
  | assertionFailure
  | driverFatal
  | cancelled
deriving DecidableEq, Repr

namespace Kind

def all : List Kind :=
  [.config, .variableResolution, .locator, .elementNotFound, .timeout, .assertionFailure,
    .driverFatal, .cancelled]

/-- The name of a class for readers. -/
def title : Kind → String
  | .config => "ConfigError"
  | .variableResolution => "VariableResolutionError"
  | .locator => "LocatorError"
  | .elementNotFound => "ElementNotFound"
  | .timeout => "Timeout"
  | .assertionFailure => "AssertionFailure"
  | .driverFatal => "DriverFatalError"
  | .cancelled => "Cancelled"

/-- The word of a class in documents. -/
def word : Kind → String
  | .config => "config"
  | .variableResolution => "variable_resolution"
  | .locator => "locator"
  | .elementNotFound => "element_not_found"
  | .timeout => "timeout"
  | .assertionFailure => "assertion_failure"
  | .driverFatal => "driver_fatal"
  | .cancelled => "cancelled"

end Kind

def Misfit.message : Misfit → String
  | .noLocator fault => fault.message
  | .elementNeeded kind => "action '" ++ kind.word ++ "' needs an element locator"
  | .pageNeeded kind => "action '" ++ kind.word ++ "' expects the 'url' target"
  | .stated reason => reason

def Finding.message : Finding → String
  | .text l expected actual =>
    "text of " ++ l.text ++ " does not match. Expected: '" ++ expected ++ "', Actual: '"
      ++ actual ++ "'"
  | .count l expected actual =>
    "element count of " ++ l.text ++ " does not match. Expected: " ++ Nat.repr expected
      ++ ", Actual: " ++ Nat.repr actual
  | .absent l => "element " ++ l.text ++ " is not visible: not found"
  | .hidden l => "element " ++ l.text ++ " is present but not visible"
  | .shown l => "element " ++ l.text ++ " is visible but should not be"
  | .attributeValue l name expected actual =>
    "attribute of " ++ l.text ++ " does not match. Expected " ++ name ++ "='" ++ expected
      ++ "', Actual " ++ name ++ "='" ++ actual ++ "'"
  | .address expected actual =>
    "URL does not contain '" ++ expected ++ "'. Actual URL: '" ++ actual ++ "'"
  | .title expected actual =>
    "title does not contain '" ++ expected ++ "'. Actual title: '" ++ actual ++ "'"
  | .stated message => message

def Operation.message : Operation → String
  | .named name => name
  | .awaiting text l => "waiting for '" ++ text ++ "' in " ++ l.text

def message : Failure → String
  | .config fault => fault.message
  | .unresolved name field => "unresolved variable '$\x7b" ++ name ++ "\x7d' in " ++ field
  | .target text misfit => "invalid target '" ++ text ++ "': " ++ misfit.message
  | .notFound what => "element not found: " ++ what
  | .timeout operation seconds => operation.message ++ " timed out after " ++ seconds.fixed 1 ++ "s"
  | .browserTimeout what => "driver timed out: " ++ what
  | .assertion finding => finding.message
  | .browser message _ => "driver failure: " ++ message
  | .cancelled => "run cancelled"

def kind : Failure → Kind
  | .config _ => .config
  | .unresolved _ _ => .variableResolution
  | .target _ _ => .locator
  | .notFound _ => .elementNotFound
  | .timeout _ _ => .timeout
  | .browserTimeout _ => .timeout
  | .assertion _ => .assertionFailure
  | .browser _ _ => .driverFatal
  | .cancelled => .cancelled

/-- May another attempt of the same step succeed? A page that answered wrong will do so again; a
browser failure is tried again only when the session is still usable. -/
def isRetryable : Failure → Bool
  | .notFound _ => true
  | .timeout _ _ => true
  | .browserTimeout _ => true
  | .browser _ transient => transient
  | _ => false

/-- The failure of a step whose call the browser refused. -/
def ofBrowser : Browser.Fault → Failure
  | .notFound what => .notFound what
  | .timedOut what => .browserTimeout what
  | .broken message transient => .browser message transient

end Failure
end Walkthrough
