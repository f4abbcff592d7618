import Walkthrough.Text.Search

/-!
# Walkthrough.Files.Path

Paths as texts with slashes between their components. Empty components and inner dots mean
nothing; a dot at the front is a component.

* `join` puts one path under another, `parent?` takes the last component away.
* `components` is what two spellings of one path have in common.
-/

namespace Walkthrough
namespace Files
namespace Path

def isAbsolute (path : String) : Bool := path.toList.head? = some '/'

/-- Put `path` under `base`, unless it is absolute. -/
def join (base path : String) : String :=
  if isAbsolute path then path
  else if base.isEmpty || base.toList.getLast? = some '/' then base ++ path
  else base ++ "/" ++ path

/-- A segment that adds no component; `first` says that it stands at the front of the path. -/
def isVoid (first : Bool) (segment : List Char) : Bool :=
  segment.isEmpty || (segment = ['.'] && !first)

/-- Segments without void ones at their end. The last segment of the list stands at the front of
the path when `relative` holds. -/
def dropVoid (relative : Bool) : List (List Char) → List (List Char)
  | [] => []
  | s :: rest => if isVoid (relative && rest.isEmpty) s then dropVoid relative rest else s :: rest

/-- The path without its last component. -/
def parent? (path : String) : Option String :=
  let absolute := isAbsolute path
  let segments := Text.splitAll '/' path.toList
  let segments := if absolute then segments.drop 1 else segments
  match dropVoid (!absolute) segments.reverse with
  | [] => none
  | _ :: rest =>
    let body := List.intercalate ['/'] (dropVoid (!absolute) rest).reverse
    some (String.ofList (if absolute then '/' :: body else body))

/-- The components of a path; a slash stands for the root. -/
def components (path : String) : List String :=
  let absolute := isAbsolute path
  let segments := Text.splitAll '/' path.toList
  let named := segments.zipIdx.filterMap fun s =>
    if isVoid (s.2 = 0) s.1 then none else some (String.ofList s.1)
  if absolute then "/" :: named else named

/-- Do two texts spell the same path? -/
def same (a b : String) : Bool := components a = components b

end Path
end Files
end Walkthrough
