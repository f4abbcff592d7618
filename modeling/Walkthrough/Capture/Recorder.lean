import Walkthrough.Capture.Policy
import Walkthrough.Run.Program

/-!
# Walkthrough.Capture.Recorder

When screenshots and videos are taken of a scenario. A capture that goes wrong leaves nothing
behind and changes nothing else.

* `startRecording` and `stopRecording` are the only programs that change whether a video is being
  recorded; every other one passes that on.
-/

namespace Walkthrough
namespace Capture

open Browser Report Run

/-- Who takes the captures of a scenario. -/
structure Recorder where
  session : Nat
  policy : Policy
  scenario : String
  /-- The limit of every call. -/
  limit : Duration

namespace Recorder

/-- Make a call whose failure is nobody's concern. -/
def tryCall (r : Recorder) (c : Call) : Program (Option c.Result) := do
  match ← Program.ask (.shielded r.session c r.limit) with
  | some (.ok a) => return some a
  | _ => return none

/-- Store what was captured. -/
def persist (r : Recorder) (kind : ArtifactKind) (reason : Reason) (stepId attempt : Option Nat)
    (bytes : ByteArray) : Program (Option Artifact) := do
  let moment ← Program.ask .now
  let key : Key := ⟨kind, reason, r.scenario, stepId, attempt, moment.wall⟩
  let path? ← Program.ask (.store key bytes)
  return path?.map key.artifact

/-- Take and store a screenshot of a step. -/
def screenshot (r : Recorder) (reason : Reason) (stepId attempt : Nat) :
    Program (Option Artifact) := do
  match ← r.tryCall .screenshot with
  | none => return none
  | some bytes => r.persist .screenshot reason (some stepId) (some attempt) bytes

/-- Start a recording; the answer says whether it runs. -/
def startRecording (r : Recorder) : Program Bool := do
  return (← r.tryCall (.startVideo r.policy.video)).isSome

/-- Stop the recording, and get its bytes if there are any. -/
def stopRecording (r : Recorder) : Program (Option ByteArray) := do
  match ← r.tryCall .stopVideo with
  | none => return none
  | some bytes => return if ByteArray.isEmpty bytes then none else some bytes

/-- The start of a scenario; the answer says whether a recording runs. -/
def start (r : Recorder) : Program Bool :=
  if r.policy.videoRecording then r.startRecording else pure false

/-- The screenshot of a step that passed, if one is wanted. -/
def passed (r : Recorder) (stepId : Nat) (flagged : Bool) (attempt : Nat) :
    Program (Option Artifact) :=
  if flagged || r.policy.screenshotOnStep then r.screenshot .stepPassed stepId attempt
  else pure none

/-- The screenshot of an attempt that failed, if one is wanted; `terminal` marks the last attempt
of the step. -/
def failed (r : Recorder) (stepId : Nat) (flagged : Bool) (attempt : Nat) (terminal : Bool) :
    Program (Option Artifact) :=
  if r.policy.screenshotOnFailure || (terminal && (flagged || r.policy.screenshotOnStep)) then
    r.screenshot .stepFailed stepId attempt
  else pure none

/-- The end of a step: with a video for each step, the recording is cut here. The answer says
whether a recording runs afterwards. -/
def cut (r : Recorder) (recording : Bool) (stepId : Nat) : Program (Option Artifact × Bool) := do
  if recording && r.policy.stepVideos then
    let bytes? ← r.stopRecording
    let artifact? ← match bytes? with
      | none => pure none
      | some bytes => r.persist .video .stepSegment (some stepId) none bytes
    return (artifact?, ← r.startRecording)
  else return (none, recording)

/-- The end of the scenario. -/
def finish (r : Recorder) (recording : Bool) : Program (List Artifact) := do
  if recording then
    match ← r.stopRecording with
    | none => return []
    | some bytes => return (← r.persist .video .scenario none none bytes).toList
  else return []

end Recorder
end Capture
end Walkthrough
