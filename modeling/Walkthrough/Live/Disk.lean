import Walkthrough.Config.Plan
import Walkthrough.Report.Record

/-!
# Walkthrough.Live.Disk

The files of the disk, as far as a run looks at them.

* `observe` adds what is at a path, and above it, to a tree.
* `save` writes a file.
-/

namespace Walkthrough
namespace Live

open Files

/-- What is at a path of the disk. -/
def entryOnDisk? (path : String) : IO (Option Entry) := do
  match ← (System.mkFilePath [path]).metadata.toBaseIO with
  | .error _ => return none
  | .ok about =>
    match about.type with
    | .dir => return some .directory
    | _ =>
      match ← (IO.FS.readBinFile path).toBaseIO with
      | .ok content => return some (.file content)
      | .error _ => return none

/-- Add what is at a path to a tree that knows what is above it. -/
def observeEntry (tree : Tree) (path : String) : IO Tree := do
  match tree.locate path with
  | .error _ => return tree
  | .ok place =>
    if Tree.isFixed place then return tree
    else
      match ← entryOnDisk? path with
      | none => return tree
      | some entry => return tree.put place entry

/-- Add what is at a path, and above it, to a tree. -/
def observe (tree : Tree) (path : String) : IO Tree := do
  let mut tree := tree
  let mut seen := ""
  for component in Path.components path do
    seen := Path.join seen component
    tree ← observeEntry tree seen
  return tree

/-- Add a directory and the profiles in it. -/
def observeProfiles (tree : Tree) (directory : String) : IO Tree := do
  let mut tree ← observe tree directory
  if !tree.isDirectory directory then return tree
  match ← (System.mkFilePath [directory]).readDir.toBaseIO with
  | .error _ => return tree
  | .ok entries =>
    for entry in entries do
      if (Config.profileId? entry.fileName).isSome then
        tree ← observeEntry tree (Path.join directory entry.fileName)
    return tree

/-- The paths of a plan that a run looks at. -/
def pathsOf (plan : Config.Plan) : List String :=
  let reporting := plan.master.reporting
  [reporting.reportDirectory, reporting.screenshotDirectory, reporting.videoDirectory]
    ++ plan.selected.flatMap fun e => [e.scenarioFile, e.testDataFile]

/-- Write a file, with the directories above it. -/
def save (path : String) (content : ByteArray) : IO Unit := do
  match Path.parent? path with
  | none => pure ()
  | some up => if !up.isEmpty then IO.FS.createDirAll up
  IO.FS.writeBinFile path content

end Live
end Walkthrough
