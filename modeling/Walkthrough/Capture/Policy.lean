import Walkthrough.Config.Master

/-!
# Walkthrough.Capture.Policy

What is captured of a run.
-/

namespace Walkthrough
namespace Capture

structure Policy where
  screenshotOnStep : Bool
  screenshotOnFailure : Bool
  videoRecording : Bool
  /-- The recording is cut at the end of every step. -/
  stepVideos : Bool
  video : Config.Video

namespace Policy

/-- The policy of a configuration. Videos of steps need videos at all. -/
def ofMaster (m : Config.Master) : Policy where
  screenshotOnStep := m.framework.screenshotOnStep
  screenshotOnFailure := m.framework.screenshotOnFailure
  videoRecording := m.framework.videoRecording
  stepVideos := m.framework.videoRecording && m.video.stepVideos
  video := m.video

end Policy
end Capture
end Walkthrough
