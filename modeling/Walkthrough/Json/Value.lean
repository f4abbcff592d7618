import Walkthrough.Json.Fault

/-!
# Walkthrough.Json.Value

JSON values. An object is the list of its members; what is read from a document has its members
in ascending order of their keys, each key once.

* `Members.insert` keeps that order, and the later of two values wins.
* `Value.found` names a value in a complaint.
-/

namespace Walkthrough
namespace Json

/-- A number of a document: an integer that fits in 64 bits, or a floating point number. -/
inductive Number where
  /-- A natural number below `2 ^ 64`. -/
  | natural (n : Nat)
  /-- The negative number `-n` with `0 < n ≤ 2 ^ 63`. -/
  | negative (n : Nat)
  | real (x : Binary64)
deriving DecidableEq, Repr

/-- A JSON value. -/
inductive Value where
  | null
  | boolean (b : Bool)
  | number (n : Number)
  | text (s : String)
  | array (items : List Value)
  | object (members : List (String × Value))

instance : Inhabited Value := ⟨.null⟩

/-- The members of an object with one more, in ascending order of the keys; a member of the same
key gives way. -/
def insertMember {α : Type} (key : String) (value : α) :
    List (String × α) → List (String × α)
  | [] => [(key, value)]
  | (k, v) :: rest =>
    if key < k then (key, value) :: (k, v) :: rest
    else if key = k then (key, value) :: rest
    else (k, v) :: insertMember key value rest

/-- The members in order, from a list in which the later of two equal keys wins. -/
def orderMembers {α : Type} (members : List (String × α)) : List (String × α) :=
  members.foldl (fun ms m => insertMember m.1 m.2 ms) []

/-- The value of a key. -/
def lookup {α : Type} (key : String) : List (String × α) → Option α
  | [] => none
  | (k, v) :: rest => if k = key then some v else lookup key rest

theorem lookup_insertMember_self {α : Type} (key : String) (value : α)
    (ms : List (String × α)) : lookup key (insertMember key value ms) = some value := by
  induction ms with
  | nil => simp [insertMember, lookup]
  | cons m rest ih =>
    obtain ⟨k, v⟩ := m
    simp only [insertMember]
    split
    · simp [lookup]
    · split
      · simp [lookup]
      · next h => simp only [lookup, if_neg (fun e : k = key => h e.symm), ih]

theorem lookup_insertMember_of_ne {α : Type} {key other : String} (h : other ≠ key) (value : α)
    (ms : List (String × α)) : lookup other (insertMember key value ms) = lookup other ms := by
  induction ms with
  | nil => simp [insertMember, lookup, h.symm]
  | cons m rest ih =>
    obtain ⟨k, v⟩ := m
    simp only [insertMember]
    split
    · simp [lookup, h.symm]
    · split
      · next e =>
        subst e
        simp [lookup, h.symm]
      · by_cases hk : k = other
        · simp [lookup, hk]
        · simp only [lookup, if_neg hk, ih]

/-- The number as it is named in a complaint. -/
def Number.found : Number → Found
  | .natural n => .integer n
  | .negative n => .integer (-(n : Int))
  | .real x => .real x

/-- The text of a number in a document. -/
def Number.text : Number → String
  | .natural n => Nat.repr n
  | .negative n => "-" ++ Nat.repr n
  | .real x => x.written layout

/-- The value as it is named in a complaint. -/
def Value.found : Value → Found
  | .null => .null
  | .boolean b => .boolean b
  | .number n => n.found
  | .text s => .text s
  | .array _ => .sequence
  | .object _ => .map

def Value.isObject : Value → Bool
  | .object _ => true
  | _ => false

/-- A member of an object. -/
def Value.member? (key : String) : Value → Option Value
  | .object ms => lookup key ms
  | _ => none

def Value.text? : Value → Option String
  | .text s => some s
  | _ => none

/-- An integer as a value, for records that hold counts. -/
def Value.ofNat (n : Nat) : Value := .number (.natural n)

end Json
end Walkthrough
