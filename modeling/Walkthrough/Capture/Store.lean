import Walkthrough.Capture.Key
import Walkthrough.Config.Settings
import Walkthrough.Files.Tree

/-!
# Walkthrough.Capture.Store

Captures in files: screenshots and videos of one run each have a directory of their own.

* `Store.put` writes a capture and says where it is.
-/

namespace Walkthrough
namespace Capture

open Files Report

/-- The directories of a run. -/
structure Store where
  screenshots : String
  videos : String
deriving DecidableEq, Repr

namespace Store

/-- The directories of the run with a stamp. -/
def ofSession (reporting : Config.Reporting) (stamp : String) : Store :=
  let session := "session_" ++ stamp
  ⟨Path.join reporting.screenshotDirectory session, Path.join reporting.videoDirectory session⟩

def directory (store : Store) : ArtifactKind → String
  | .screenshot => store.screenshots
  | .video => store.videos

/-- Why a capture was not stored. -/
inductive Fault where
  | noDirectory (path : String) (fault : Files.Fault)
  | notWritten (path : String) (fault : Files.Fault)
deriving DecidableEq, Repr

def Fault.message : Fault → String
  | .noDirectory path f => "Failed to create artifact directory " ++ path ++ ": " ++ f.message
  | .notWritten path f => "Failed to write artifact " ++ path ++ ": " ++ f.message

/-- Where a capture is stored. -/
def pathOf (store : Store) (key : Key) : String :=
  Path.join (store.directory key.kind) key.fileName

/-- Store a capture, in place of an earlier one of the same path. -/
def put (store : Store) (key : Key) (bytes : ByteArray) (tree : Tree) :
    Except Fault (String × Tree) :=
  let directory := store.directory key.kind
  match tree.makeDirectories directory with
  | .error f => .error (.noDirectory directory f)
  | .ok tree =>
    let path := store.pathOf key
    match tree.write path bytes with
    | .error f => .error (.notWritten path f)
    | .ok tree => .ok (path, tree)

end Store
end Capture
end Walkthrough
