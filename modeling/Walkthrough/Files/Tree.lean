import Walkthrough.Files.Path

/-!
# Walkthrough.Files.Tree

A tree of files and directories as a value, seen from a working directory, with the complaints
that an operating system makes about it.

Every entry has a place, which is the list of the names that lead to it. The working directory is
the empty place; what lies above it and what lies under the root have places of their own, which
hold nothing at first.

* `entryAt?_put_self` says that what is put at a place is found there.
-/

namespace Walkthrough
namespace Files

inductive Fault where
  | notFound
  | exists
  | notDirectory
  | isDirectory
  | nameTooLong
  | invalidName
  | invalidText
deriving DecidableEq, Repr

def Fault.message : Fault → String
  | .notFound => "No such file or directory (os error 2)"
  | .exists => "File exists (os error 17)"
  | .notDirectory => "Not a directory (os error 20)"
  | .isDirectory => "Is a directory (os error 21)"
  | .nameTooLong => "File name too long (os error 36)"
  | .invalidName => "file name contained an unexpected NUL byte"
  | .invalidText => "stream did not contain valid UTF-8"

inductive Entry where
  | file (content : ByteArray)
  | directory

/-- The names that lead to an entry. -/
abbrev Place := List String

/-- Files and directories by their places. -/
structure Tree where
  entries : List (Place × Entry)

namespace Tree

def empty : Tree := ⟨[]⟩

instance : Inhabited Tree := ⟨empty⟩

/-- The working directory, the directories above it, and the root. -/
def isFixed (place : Place) : Bool := place.all (· = "..") || place = ["/"]

/-- The entry at a place of a list. -/
def find? (place : Place) : List (Place × Entry) → Option Entry
  | [] => none
  | (p, e) :: rest => if p = place then some e else find? place rest

/-- The entry at a place. -/
def entryAt? (tree : Tree) (place : Place) : Option Entry :=
  if isFixed place then some .directory else find? place tree.entries

/-- Put an entry at a place. -/
def put (tree : Tree) (place : Place) (entry : Entry) : Tree :=
  ⟨(place, entry) :: tree.entries.filter fun p => p.1 ≠ place⟩

/-- The place one level up. -/
def above (place : Place) : Place :=
  if place.all (· = "..") then ".." :: place
  else if place = ["/"] then place
  else place.dropLast

/-- The longest name of an entry, in bytes. -/
def nameLimit : Nat := 255

/-- The longest path, in bytes. -/
def pathLimit : Nat := 4095

/-- Follow the segments of a path from a place; every step starts in a directory. -/
def walk (tree : Tree) : Place → List String → Except Fault Place
  | place, [] => .ok place
  | place, segment :: rest =>
    match tree.entryAt? place with
    | none => .error .notFound
    | some (.file _) => .error .notDirectory
    | some .directory =>
      if nameLimit < segment.utf8ByteSize then .error .nameTooLong
      else if segment = "." then tree.walk place rest
      else if segment = ".." then tree.walk (above place) rest
      else tree.walk (place ++ [segment]) rest

/-- The named segments of a path and the place where it starts. -/
def way (path : String) : Place × List String :=
  let named := ((Text.splitAll '/' path.toList).map String.ofList).filter (· ≠ "")
  (if Path.isAbsolute path then ["/"] else [], named)

/-- A slash at the end of a path asks for a directory, as a dot does. -/
def trailing (path : String) : List String :=
  let parts := Text.splitAll '/' path.toList
  if 1 < parts.length ∧ parts.getLast? = some [] then ["."] else []

/-- Follow segments for a path, unless there can be no such path. -/
def follow (tree : Tree) (path : String) (start : Place) (names : List String) : Except Fault Place :=
  if path.toList.contains '\x00' then .error .invalidName
  else if path.isEmpty then .error .notFound
  else if pathLimit < path.utf8ByteSize then .error .nameTooLong
  else tree.walk start names

/-- The place that a path leads to, whether or not something is there. -/
def locate (tree : Tree) (path : String) : Except Fault Place :=
  tree.follow path (way path).1 ((way path).2 ++ trailing path)

/-- The place of a directory that is not there yet. A slash at the end asks for nothing more. -/
def locateNew (tree : Tree) (path : String) : Except Fault Place :=
  tree.follow path (way path).1 (way path).2

/-- The entry that a path leads to. -/
def resolve (tree : Tree) (path : String) : Except Fault (Place × Entry) := do
  let place ← tree.locate path
  match tree.entryAt? place with
  | some e => .ok (place, e)
  | none => .error .notFound

def isFile (tree : Tree) (path : String) : Bool :=
  match tree.resolve path with
  | .ok (_, .file _) => true
  | _ => false

def isDirectory (tree : Tree) (path : String) : Bool :=
  match tree.resolve path with
  | .ok (_, .directory) => true
  | _ => false

def isThere (tree : Tree) (path : String) : Bool :=
  match tree.resolve path with
  | .ok _ => true
  | .error _ => false

/-- The bytes of a file. -/
def read (tree : Tree) (path : String) : Except Fault ByteArray := do
  match ← tree.resolve path with
  | (_, .file content) => .ok content
  | (_, .directory) => .error .isDirectory

/-- The text of a file. -/
def readText (tree : Tree) (path : String) : Except Fault String := do
  let bytes ← tree.read path
  match String.fromUTF8? bytes with
  | some s => .ok s
  | none => .error .invalidText

/-- Is there a directory to put a new entry of this place into? -/
def parentThere (tree : Tree) (place : Place) : Bool :=
  match tree.entryAt? place.dropLast with
  | some .directory => true
  | _ => false

/-- Write a file, in place of one that may be there. -/
def write (tree : Tree) (path : String) (content : ByteArray) : Except Fault Tree := do
  let place ← tree.locate path
  match tree.entryAt? place with
  | some .directory => .error .isDirectory
  | some (.file _) => .ok (tree.put place (.file content))
  | none =>
    if tree.parentThere place then .ok (tree.put place (.file content)) else .error .notFound

/-- Make a single directory. -/
def makeDirectory (tree : Tree) (path : String) : Except Fault Tree := do
  let place ← tree.locateNew path
  match tree.entryAt? place with
  | some _ => .error .exists
  | none => if tree.parentThere place then .ok (tree.put place .directory) else .error .notFound

/-- Make a directory and those above it, at most `fuel` of them. -/
def makeDirectoriesAux : Nat → Tree → String → Except Fault Tree
  | 0, tree, _ => .ok tree
  | fuel + 1, tree, path =>
    if path.isEmpty then .ok tree
    else
      match tree.makeDirectory path with
      | .ok tree => .ok tree
      | .error .notFound =>
        match Path.parent? path with
        | none => .error .notFound
        | some up => do
          let tree ← makeDirectoriesAux fuel tree up
          match tree.makeDirectory path with
          | .ok tree => .ok tree
          | .error f => if tree.isDirectory path then .ok tree else .error f
      | .error f => if tree.isDirectory path then .ok tree else .error f

/-- Make a directory and those above it. A parent has a shorter path, so its length bounds their
number. -/
def makeDirectories (tree : Tree) (path : String) : Except Fault Tree :=
  makeDirectoriesAux (path.length + 1) tree path

/-- The names in a directory, in no particular order. -/
def list (tree : Tree) (path : String) : Except Fault (List String) := do
  match ← tree.resolve path with
  | (_, .file _) => .error .notDirectory
  | (place, .directory) =>
    .ok (tree.entries.filterMap fun p =>
      if p.1.dropLast = place ∧ p.1 ≠ [] then p.1.getLast? else none)

/-- The places of all files. -/
def files (tree : Tree) : List Place :=
  tree.entries.filterMap fun p =>
    match p.2 with
    | .file _ => some p.1
    | .directory => none

theorem find?_filter_of_ne {place other : Place} (h : other ≠ place)
    (entries : List (Place × Entry)) :
    find? other (entries.filter fun p => p.1 ≠ place) = find? other entries := by
  induction entries with
  | nil => rfl
  | cons p rest ih =>
    by_cases hp : p.1 = place
    · have ho : p.1 ≠ other := fun e => h (e.symm.trans hp)
      simp only [ne_eq, hp, not_true_eq_false, decide_false, Bool.false_eq_true, not_false_eq_true,
        List.filter_cons_of_neg, find?, if_neg (hp ▸ ho)]
      exact ih
    · simp only [ne_eq, hp, not_false_eq_true, decide_true, List.filter_cons_of_pos, find?]
      split
      · rfl
      · exact ih

theorem entryAt?_put_self {place : Place} (h : isFixed place = false) (tree : Tree) (e : Entry) :
    (tree.put place e).entryAt? place = some e := by
  simp [entryAt?, h, put, find?]

theorem entryAt?_put_of_ne {place other : Place} (h : other ≠ place) (tree : Tree) (e : Entry) :
    (tree.put place e).entryAt? other = tree.entryAt? other := by
  simp only [entryAt?, put, find?, if_neg (Ne.symm h), find?_filter_of_ne h]

end Tree
end Files
end Walkthrough
