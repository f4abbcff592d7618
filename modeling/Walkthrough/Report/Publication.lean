import Walkthrough.Report.Markdown
import Walkthrough.Yaml.Printer

/-!
# Walkthrough.Report.Publication

A report in files, one for each format that is wanted.

* `publish` goes on with the next format when one cannot be written.
-/

namespace Walkthrough
namespace Report

open Files

inductive Format where
  | json
  | yaml
  | document
deriving DecidableEq, Repr

namespace Format

/-- The end of the name of the file. -/
def extension : Format → String
  | .json => "json"
  | .yaml => "yaml"
  | .document => "md"

end Format

/-- Why a report was not written. -/
inductive Fault where
  | noDirectory (path : String) (fault : Files.Fault)
  | notWritten (path : String) (fault : Files.Fault)
  | unsupported (format : Format)
deriving DecidableEq, Repr

def Fault.message : Fault → String
  | .noDirectory path f => "Failed to create report directory: " ++ path ++ ": " ++ f.message
  | .notWritten path f => "Failed to write report: " ++ path ++ ": " ++ f.message
  | .unsupported .json => "JSON reports are not supported by this writer"
  | .unsupported .yaml => "YAML reports are not supported by this writer"
  | .unsupported .document => "Document reports are not supported by this writer"

/-- Who writes reports: where, in which formats, and whether pictures are embedded. -/
structure Writer where
  directory : String
  embed : Bool
  supports : Format → Bool

namespace Writer

/-- The writer of a configuration, which knows every format. -/
def ofReporting (r : Config.Reporting) : Writer := ⟨r.reportDirectory, r.screenshotEmbedding, fun _ => true⟩

/-- Where the report of a run is written. -/
def path (w : Writer) (runId : String) (format : Format) : String :=
  Path.join w.directory ("test_report_" ++ runId ++ "." ++ format.extension)

/-- The text of a report in a format. -/
def content (w : Writer) (tree : Tree) (report : Report) : Format → String
  | .json => report.render
  | .yaml => Yaml.render report.toValue
  | .document => report.markdown tree report.artifacts w.embed

/-- Write a report in a format, making the directory if nothing is there. -/
def write (w : Writer) (tree : Tree) (report : Report) (format : Format) :
    Except Fault (String × Tree) :=
  if !w.supports format then .error (.unsupported format)
  else
    let made := if tree.isThere w.directory then .ok tree else tree.makeDirectories w.directory
    match made with
    | .error f => .error (.noDirectory w.directory f)
    | .ok made =>
      let path := w.path report.runId format
      match made.write path (w.content tree report format).toUTF8 with
      | .error f => .error (.notWritten path f)
      | .ok tree => .ok (path, tree)

end Writer

/-- The formats that a configuration asks for, in order. -/
def formats (r : Config.Reporting) : List Format :=
  (if r.jsonReports then [.json] else []) ++ (if r.yamlReports then [.yaml] else [])
    ++ (if r.wordReports then [.document] else [])

/-- Write one format after the other, and list what was written. -/
def publishAll (w : Writer) (report : Report) : List Format → Tree → List String × Tree
  | [], tree => ([], tree)
  | format :: rest, tree =>
    match w.write tree report format with
    | .error _ => publishAll w report rest tree
    | .ok (path, tree) =>
      let (paths, tree) := publishAll w report rest tree
      (path :: paths, tree)

/-- Write a report in every format that a configuration asks for. -/
def publish (w : Writer) (reporting : Config.Reporting) (report : Report) (tree : Tree) :
    List String × Tree :=
  publishAll w report (formats reporting) tree

end Report
end Walkthrough
