import Walkthrough.Json.Schema

/-!
# Walkthrough.Config.Settings

What the master configuration says about the framework, the reports and the videos. Every setting
may be left out and has a default.

* `ofFields_fields` and its siblings say that nothing is lost when settings are written.
-/

namespace Walkthrough
namespace Config

open Json

/-- The settings of the framework: browser, waits, captures and retries. Waits are in seconds. -/
structure Framework where
  browser : String
  implicitWait : Binary64
  /-- How long to wait for an element when there is no environment profile. -/
  explicitWait : Binary64
  screenshotOnStep : Bool
  screenshotOnFailure : Bool
  videoRecording : Bool
  parallelExecution : Bool
  maxRetryAttempts : Nat
  maxParallelWorkers : Nat
  /-- How long the whole run may take. -/
  runTimeout : Option Binary64
  webdriverUrl : String

namespace Framework

def default : Framework where
  browser := "chrome"
  implicitWait := Binary64.ofNat 0
  explicitWait := Binary64.ofNat 30
  screenshotOnStep := false
  screenshotOnFailure := true
  videoRecording := false
  parallelExecution := false
  maxRetryAttempts := 3
  maxParallelWorkers := 4
  runTimeout := none
  webdriverUrl := "http://localhost:4444"

instance : Inhabited Framework := ⟨default⟩

def schema : Schema :=
  .record "FrameworkConfig"
    (.optional "browser" .text <| .optional "implicit_wait" .real <|
      .optional "explicit_wait" .real <| .optional "screenshot_on_step" .flag <|
      .optional "screenshot_on_failure" .flag <| .optional "video_recording" .flag <|
      .optional "parallel_execution" .flag <| .optional "max_retry_attempts" .u32 <|
      .optional "max_parallel_workers" .count <| .optional "run_timeout" (.optional .real) <|
      .optional "webdriver_url" .text .nil)

def ofFields : schema.Denote → Framework
  | (browser, implicitWait, explicitWait, screenshotOnStep, screenshotOnFailure, videoRecording,
      parallelExecution, maxRetryAttempts, maxParallelWorkers, runTimeout, webdriverUrl, ()) =>
    { browser := browser.getD default.browser
      implicitWait := implicitWait.getD default.implicitWait
      explicitWait := explicitWait.getD default.explicitWait
      screenshotOnStep := screenshotOnStep.getD default.screenshotOnStep
      screenshotOnFailure := screenshotOnFailure.getD default.screenshotOnFailure
      videoRecording := videoRecording.getD default.videoRecording
      parallelExecution := parallelExecution.getD default.parallelExecution
      maxRetryAttempts := maxRetryAttempts.getD default.maxRetryAttempts
      maxParallelWorkers := maxParallelWorkers.getD default.maxParallelWorkers
      runTimeout := runTimeout.getD default.runTimeout
      webdriverUrl := webdriverUrl.getD default.webdriverUrl }

def fields (f : Framework) : schema.Denote :=
  (some f.browser, some f.implicitWait, some f.explicitWait, some f.screenshotOnStep,
    some f.screenshotOnFailure, some f.videoRecording, some f.parallelExecution,
    some f.maxRetryAttempts, some f.maxParallelWorkers, some f.runTimeout, some f.webdriverUrl, ())

theorem ofFields_fields (f : Framework) : ofFields f.fields = f := rfl

end Framework

/-- Where reports and captures go, and which reports are written. -/
structure Reporting where
  reportDirectory : String
  screenshotDirectory : String
  videoDirectory : String
  jsonReports : Bool
  /-- The document for readers. -/
  wordReports : Bool
  yamlReports : Bool
  /-- Screenshots stand in the document itself rather than behind links. -/
  screenshotEmbedding : Bool

namespace Reporting

def default : Reporting where
  reportDirectory := "./reports"
  screenshotDirectory := "./screenshots"
  videoDirectory := "./videos"
  jsonReports := true
  wordReports := true
  yamlReports := false
  screenshotEmbedding := true

instance : Inhabited Reporting := ⟨default⟩

def schema : Schema :=
  .record "ReportingConfig"
    (.optional "report_directory" .path <| .optional "screenshot_directory" .path <|
      .optional "video_directory" .path <| .optional "json_reports" .flag <|
      .optional "word_reports" .flag <| .optional "yaml_reports" .flag <|
      .optional "screenshot_embedding" .flag .nil)

def ofFields : schema.Denote → Reporting
  | (reportDirectory, screenshotDirectory, videoDirectory, jsonReports, wordReports, yamlReports,
      screenshotEmbedding, ()) =>
    { reportDirectory := reportDirectory.getD default.reportDirectory
      screenshotDirectory := screenshotDirectory.getD default.screenshotDirectory
      videoDirectory := videoDirectory.getD default.videoDirectory
      jsonReports := jsonReports.getD default.jsonReports
      wordReports := wordReports.getD default.wordReports
      yamlReports := yamlReports.getD default.yamlReports
      screenshotEmbedding := screenshotEmbedding.getD default.screenshotEmbedding }

def fields (r : Reporting) : schema.Denote :=
  (some r.reportDirectory, some r.screenshotDirectory, some r.videoDirectory, some r.jsonReports,
    some r.wordReports, some r.yamlReports, some r.screenshotEmbedding, ())

theorem ofFields_fields (r : Reporting) : ofFields r.fields = r := rfl

end Reporting

/-- How videos are recorded. -/
structure Video where
  /-- Frames in a second. -/
  fps : Nat
  quality : String
  compression : Bool
  /-- The recording is cut at the end of every step. -/
  stepVideos : Bool
deriving DecidableEq, Repr

namespace Video

def default : Video where
  fps := 10
  quality := "medium"
  compression := true
  stepVideos := false

instance : Inhabited Video := ⟨default⟩

def schema : Schema :=
  .record "VideoConfig"
    (.optional "fps" .u32 <| .optional "quality" .text <| .optional "compression" .flag <|
      .optional "step_videos" .flag .nil)

def ofFields : schema.Denote → Video
  | (fps, quality, compression, stepVideos, ()) =>
    { fps := fps.getD default.fps
      quality := quality.getD default.quality
      compression := compression.getD default.compression
      stepVideos := stepVideos.getD default.stepVideos }

def fields (v : Video) : schema.Denote :=
  (some v.fps, some v.quality, some v.compression, some v.stepVideos, ())

theorem ofFields_fields (v : Video) : ofFields v.fields = v := rfl

end Video
end Config
end Walkthrough
