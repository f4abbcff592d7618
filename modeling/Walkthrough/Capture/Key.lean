import Walkthrough.Report.Record

/-!
# Walkthrough.Capture.Key

What identifies a capture, and the name of the file that it is stored in.

* `sanitize` makes any text safe as a part of a file name.
* `Key.fileName` tells captures apart by scenario, step, attempt and millisecond.
-/

namespace Walkthrough
namespace Capture

open Report

/-- Why something was captured. -/
inductive Reason where
  | stepPassed
  | stepFailed
  | stepSegment
  | scenario
deriving DecidableEq, Repr

/-- The identity of a capture. -/
structure Key where
  kind : ArtifactKind
  reason : Reason
  scenario : String
  stepId : Option Nat
  attempt : Option Nat
  capturedAt : Timestamp
deriving DecidableEq, Repr

/-- Is the character kept in the name of a file? -/
def isKept (c : Char) : Bool := c.isAlphanum || c = '-' || c = '.'

/-- Every run of characters that are not kept becomes a single underscore; `ended` says that the
text before ends in one. -/
def collapse : Bool → List Char → List Char
  | _, [] => []
  | ended, c :: cs =>
    if isKept c then c :: collapse false cs
    else if ended then collapse true cs
    else '_' :: collapse true cs

/-- The longest name of a scenario in the name of a file. -/
def nameLimit : Nat := 50

/-- A name without what must not stand in the name of a file. -/
def sanitizeChars (cs : List Char) : List Char :=
  let inner := Text.dropEndWhile (· = '_') ((collapse false cs).dropWhile (· = '_'))
  let limited := inner.take nameLimit
  if limited.isEmpty then "scenario".toList else limited

def sanitize (name : String) : String := String.ofList (sanitizeChars name.toList)

namespace Key

/-- The name of the file of a capture. -/
def fileName (k : Key) : String :=
  let stamp := k.capturedAt.clockStamp
  let scenario := sanitize k.scenario
  let ofStep (id : Nat) (outcome : String) : String :=
    "step_" ++ Text.padded 2 id ++ "_attempt_" ++ Nat.repr (k.attempt.getD 1) ++ "_" ++ stamp ++ "_"
      ++ scenario ++ "_" ++ outcome ++ ".png"
  match k.reason, k.stepId with
  | .stepPassed, some id => ofStep id "passed"
  | .stepFailed, some id => ofStep id "failed"
  | .stepSegment, some id =>
    "step_" ++ Text.padded 2 id ++ "_" ++ stamp ++ "_" ++ scenario ++ ".gif"
  | _, _ =>
    match k.kind with
    | .screenshot => "scenario_" ++ stamp ++ "_" ++ scenario ++ ".png"
    | .video => "test_" ++ stamp ++ "_" ++ scenario ++ ".gif"

/-- The artifact of a capture that was stored under a path. -/
def artifact (k : Key) (path : String) : Artifact :=
  ⟨k.kind, path, k.stepId, k.attempt, k.capturedAt⟩

end Key
end Capture
end Walkthrough
