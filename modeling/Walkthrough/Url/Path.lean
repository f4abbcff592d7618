import Walkthrough.Url.Encoding

/-!
# Walkthrough.Url.Path

The path of an address. A path is built segment by segment: a segment of one dot adds nothing, a
segment of two dots takes the segment before it away, and the drive letter of a local file is
never taken away.

* `build` appends the segments of a text to a path.
-/

namespace Walkthrough
namespace Url

/-- The families of schemes, which decide what a backslash and an empty host mean. -/
inductive Family where
  | file
  | web
  | other
deriving DecidableEq, Repr

def Family.isSpecial (f : Family) : Bool := f != .other

/-- The family of a scheme. -/
def Family.ofScheme (scheme : List Char) : Family :=
  let s := String.ofList scheme
  if s = "file" then .file
  else if s = "http" ∨ s = "https" ∨ s = "ws" ∨ s = "wss" ∨ s = "ftp" then .web
  else .other

/-- A letter with a colon or a bar at the front of a text, and nothing or a delimiter behind. -/
def startsWithDrive : List Char → Bool
  | a :: b :: rest =>
    a.isAlpha && (b = ':' || b = '|')
      && match rest with
        | [] => true
        | c :: _ => ['/', '\\', '?', '#'].contains c
  | _ => false

def isDrive (cs : List Char) : Bool := cs.length = 2 && startsWithDrive cs

/-- A drive letter with its colon. -/
def isNormalDrive (cs : List Char) : Bool := isDrive cs && cs.drop 1 = [':']

/-- The part of a path behind its last slash starts here. -/
def lastSegmentStart (path : List Char) : Nat :=
  path.length - (path.reverse.takeWhile (· != '/')).length

/-- Take the last segment away and keep the slash before it. -/
def pop (family : Family) (path : List Char) : List Char :=
  if path.isEmpty then path
  else
    let start := lastSegmentStart path
    if family = .file && isNormalDrive (path.drop start) then path else path.take start

/-- Take the last segment away, unless the path is a drive alone. -/
def shorten (family : Family) (path : List Char) : List Char :=
  if family = .file && isNormalDrive path then path else pop family path

/-- May the slash at the end be taken away? The first one and one behind a drive stay. -/
def lastSlashRemovable (path : List Char) : Bool :=
  let before := path.dropLast
  before.contains '/' &&
    let tail := path.drop (lastSegmentStart before - 1)
    !startsWithDrive (tail.drop 1)

def endsWithSlash (path : List Char) : Bool := path.getLast? = some '/'

/-- The spellings of a segment of one dot. -/
def isOneDot (segment : List Char) : Bool :=
  [".", "%2e"].contains (String.ofList (segment.map Char.toLower))

/-- The spellings of a segment of two dots. -/
def isTwoDots (segment : List Char) : Bool :=
  ["..", "%2e%2e", "%2e.", ".%2e"].contains (String.ofList (segment.map Char.toLower))

/-- A path in the making; `host` is withdrawn when a drive letter takes its place. -/
structure PathState where
  path : List Char
  host : Bool
deriving Repr

/-- Add a segment, followed by a slash or not. -/
def PathState.add (family : Family) (st : PathState) (raw : List Char) (slash : Bool) :
    PathState :=
  let path :=
    if family = .file && !raw.isEmpty && !st.path.isEmpty && isNormalDrive (st.path.drop 1) then
      st.path ++ ['/']
    else st.path
  let segment := encode inPathSet raw
  let slashText := if slash then ['/'] else []
  if isTwoDots segment then
    let path := if endsWithSlash path && lastSlashRemovable path then path.dropLast else path
    let path := shorten family path
    { st with path := if slash && !endsWithSlash path then path ++ ['/'] else path }
  else if isOneDot segment then
    { st with path := if endsWithSlash path then path else path ++ ['/'] }
  else if family = .file && path.length = 1 && isDrive segment then
    { path := path ++ segment.take 1 ++ ':' :: slashText, host := false }
  else { st with path := path ++ segment ++ slashText }

/-- Append segments up to a query or a fragment; `raw` is the segment being read, reversed. -/
def buildAux (family : Family) (st : PathState) (raw : List Char) :
    List Char → PathState × List Char
  | [] => (st.add family raw.reverse false, [])
  | c :: cs =>
    if c = '?' ∨ c = '#' then (st.add family raw.reverse false, c :: cs)
    else if c = '/' ∨ (c = '\\' ∧ family.isSpecial = true) then
      buildAux family (st.add family raw.reverse true) [] cs
    else buildAux family st (c :: raw) cs

/-- Append the segments of a text to a path; the second part is what follows the path. The path
of a local file has a single slash in front. -/
def build (family : Family) (st : PathState) (cs : List Char) : PathState × List Char :=
  let (st, rest) := buildAux family st [] cs
  if family = .file then ({ st with path := '/' :: st.path.dropWhile (· = '/') }, rest)
  else (st, rest)

end Url
end Walkthrough
