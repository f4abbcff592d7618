import Walkthrough.Failure
import Walkthrough.Json.Printer
import Walkthrough.Template

/-!
# Walkthrough.Variables

Names with their values, gathered from documents, and templates resolved against them.

* `leaves` names every scalar of a value by the keys and indices on its path, joined with dots.
* `merge` inserts the leaves in order, so that the last of equal names wins; the empty name is
  never inserted.
* `get?_insert` is the law of insertion.
-/

namespace Walkthrough

/-- Names and their values, each name once. -/
structure Variables where
  entries : List (String × String)
deriving DecidableEq, Repr

namespace Variables

def empty : Variables := ⟨[]⟩

instance : Inhabited Variables := ⟨empty⟩

/-- Put a value under a name, in place of an earlier one. -/
def insertEntry (name value : String) : List (String × String) → List (String × String)
  | [] => [(name, value)]
  | (n, v) :: rest => if n = name then (name, value) :: rest else (n, v) :: insertEntry name value rest

def insert (vars : Variables) (name value : String) : Variables :=
  ⟨insertEntry name value vars.entries⟩

/-- The value of a name. -/
def get? (vars : Variables) (name : String) : Option String := Json.lookup name vars.entries

def size (vars : Variables) : Nat := vars.entries.length

def isEmpty (vars : Variables) : Bool := vars.entries.isEmpty

theorem lookup_insertEntry (name value other : String) (es : List (String × String)) :
    Json.lookup other (insertEntry name value es)
      = if other = name then some value else Json.lookup other es := by
  induction es with
  | nil => simp [insertEntry, Json.lookup, eq_comm]
  | cons e rest ih =>
    obtain ⟨n, v⟩ := e
    simp only [insertEntry]
    split
    · next h =>
      subst h
      by_cases ho : other = n
      · simp [Json.lookup, ho]
      · simp [Json.lookup, ho, Ne.symm ho]
    · next h =>
      by_cases hn : n = other
      · subst hn
        simp [Json.lookup, h]
      · simp only [Json.lookup, if_neg hn, ih]

theorem get?_insert (vars : Variables) (name value other : String) :
    (vars.insert name value).get? other = if other = name then some value else vars.get? other :=
  lookup_insertEntry name value other vars.entries

/-- The name of a part of what `front` names. -/
def dotted (front key : String) : String :=
  if front.isEmpty then key else front ++ "." ++ key

/-- The text of a scalar. -/
def scalarText : Json.Value → String
  | .text s => s
  | .null => ""
  | v => Json.compact v

mutual

/-- The scalars of a value in order, each under its dotted name. -/
def leaves (front : String) : Json.Value → List (String × String)
  | .object members => memberLeaves front members
  | .array items => itemLeaves front 0 items
  | .null => [(front, scalarText .null)]
  | .boolean b => [(front, scalarText (.boolean b))]
  | .number n => [(front, scalarText (.number n))]
  | .text s => [(front, scalarText (.text s))]

def memberLeaves (front : String) : List (String × Json.Value) → List (String × String)
  | [] => []
  | (key, v) :: rest => leaves (dotted front key) v ++ memberLeaves front rest

def itemLeaves (front : String) (index : Nat) : List Json.Value → List (String × String)
  | [] => []
  | v :: rest => leaves (dotted front (Nat.repr index)) v ++ itemLeaves front (index + 1) rest

end

/-- Put a leaf under its name, unless it has none. -/
def insertLeaf (vars : Variables) (leaf : String × String) : Variables :=
  if leaf.1.isEmpty then vars else vars.insert leaf.1 leaf.2

/-- Put all leaves of a value under their names. -/
def merge (vars : Variables) (front : String) (v : Json.Value) : Variables :=
  (leaves front v).foldl insertLeaf vars

/-- Resolve a template; `field` says where it comes from. -/
def resolve (vars : Variables) (template field : String) : Except Failure String :=
  match Template.resolve vars.get? template with
  | .ok s => .ok s
  | .error name => .error (.unresolved name field)

end Variables
end Walkthrough
