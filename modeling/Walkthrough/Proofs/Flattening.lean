import Walkthrough.Proofs.Overriding
import Walkthrough.Proofs.Tokens

/-!
# Walkthrough.Proofs.Flattening

The scalars of a document as variables.

* `HasText`: the text of each kind of scalar (`scalarText_eq_iff`).
* `Leaf.In`: the scalars of a value, each with its path and with its position, which tells the order
  of the scalars.
* `exists_traversal`: `leaves` goes through all of them in this order.
* `tells_iff`: what the last scalar of a name says.
* `merge_of_leaves`: what merging a value changes, what it keeps, and how merges override each other.
-/

namespace Walkthrough
namespace Variables

open Json

/-! ## Leaves -/

/-- A scalar inside a value. -/
structure Leaf where
  /-- The number of the branch that is taken at each level. -/
  position : List Nat
  /-- The keys and indices on the way. -/
  path : List String
  scalar : Value

/-- The parts of a value, each with its key or index. -/
def branches : Value → List (String × Value)
  | .object members => members
  | .array items => items.mapIdx fun i v => (Nat.repr i, v)
  | _ => []

def IsScalar : Value → Prop
  | .object _ | .array _ => False
  | _ => True

/-- The texts of the scalars: a text is its own, that of null is empty, and the others are written as
in a document. -/
inductive HasText : Value → String → Prop where
  | text (s : String) : HasText (.text s) s
  | null : HasText .null ""
  | yes : HasText (.boolean true) "true"
  | no : HasText (.boolean false) "false"
  | number (n : Number) : HasText (.number n) n.text

theorem scalarText_number (n : Number) : scalarText (.number n) = n.text := String.ofList_toList

theorem scalarText_eq_iff {v : Value} (h : IsScalar v) {text : String} :
    scalarText v = text ↔ HasText v text := by
  constructor
  · rintro rfl
    cases v with
    | null => exact .null
    | boolean b => cases b with
      | false => exact .no
      | true => exact .yes
    | number n =>
      rw [scalarText_number]
      exact .number n
    | text s => exact .text s
    | array items => exact absurd h id
    | object members => exact absurd h id
  · intro htext
    cases htext with
    | text s => rfl
    | null => rfl
    | yes => rfl
    | no => rfl
    | number n => exact scalarText_number n

/-- The induction on values by their branches. -/
@[elab_as_elim]
theorem induct_branches {P : Value → Prop} (scalar : ∀ v, IsScalar v → P v)
    (node : ∀ v, ¬IsScalar v → (∀ b ∈ branches v, P b.2) → P v) (v : Value) : P v := by
  induction v using Value.induct with
  | null => exact scalar _ trivial
  | boolean b => exact scalar _ trivial
  | number n => exact scalar _ trivial
  | text s => exact scalar _ trivial
  | array items ih =>
    refine node _ id fun b hb => ?_
    obtain ⟨i, hi, rfl⟩ := List.mem_mapIdx.1 hb
    exact ih _ (List.getElem_mem hi)
  | object members ih => exact node _ id ih

namespace Leaf

/-- A leaf of a branch as one of the whole value. -/
def below (i : Nat) (key : String) (l : Leaf) : Leaf := ⟨i :: l.position, key :: l.path, l.scalar⟩

/-- A scalar is a leaf of itself, and the leaves of the branches of a value are its own. -/
inductive In : Leaf → Value → Prop where
  | scalar {v : Value} : IsScalar v → In ⟨[], [], v⟩ v
  | branch {v w : Value} {i : Nat} {key : String} {l : Leaf} :
      (branches v)[i]? = some (key, w) → In l w → In (l.below i key) v

/-- The keys and indices on the path of a leaf, joined with dots behind what is in front of them. -/
def name (front : String) (l : Leaf) : String := l.path.foldl dotted front

def text (l : Leaf) : String := scalarText l.scalar

theorem in_iff_of_isScalar {v : Value} (h : IsScalar v) {l : Leaf} : l.In v ↔ l = ⟨[], [], v⟩ := by
  constructor
  · intro hl
    cases hl with
    | scalar => rfl
    | branch hbranch => cases v <;> first | exact absurd h id | cases hbranch
  · rintro rfl
    exact .scalar h

theorem in_iff_of_not_isScalar {v : Value} (h : ¬IsScalar v) {l : Leaf} :
    l.In v ↔ ∃ (i : Nat) (key : String) (w : Value) (l' : Leaf),
      (branches v)[i]? = some (key, w) ∧ l'.In w ∧ l = l'.below i key := by
  constructor
  · intro hl
    cases hl with
    | scalar hscalar => exact absurd hscalar h
    | @branch _ w i key l' hbranch hin => exact ⟨i, key, w, l', hbranch, hin, rfl⟩
  · rintro ⟨i, key, w, l', hbranch, hin, rfl⟩
    exact .branch hbranch hin

theorem isScalar_of_in {l : Leaf} {v : Value} (h : l.In v) : IsScalar l.scalar := by
  induction h with
  | scalar hscalar => exact hscalar
  | branch _ _ ih => exact ih

/-- Every leaf of a value has the text of its kind. -/
theorem hasText_of_in {l : Leaf} {v : Value} (h : l.In v) : HasText l.scalar l.text :=
  (scalarText_eq_iff (isScalar_of_in h)).1 rfl

/-- Of the leaves of a value with the same name, this is the last. -/
structure IsLast (front : String) (v : Value) (l : Leaf) : Prop where
  isIn : l.In v
  last : ∀ l' : Leaf, l'.In v → l'.name front = l.name front → ¬l.position < l'.position

end Leaf

/-! ## The traversal -/

/-- The leaves of a value in the order in which they are merged. -/
structure IsTraversal (v : Value) (ls : List Leaf) : Prop where
  leaves : ∀ front, leaves front v = ls.map fun l => (l.name front, l.text)
  mem : ∀ l, l ∈ ls ↔ l.In v
  sorted : ls.Pairwise fun l l' => l.position < l'.position

theorem memberLeaves_eq (front : String) (members : List (String × Value)) :
    memberLeaves front members = members.flatMap fun b => leaves (dotted front b.1) b.2 := by
  induction members with
  | nil => rfl
  | cons m members ih =>
    obtain ⟨key, v⟩ := m
    rw [memberLeaves, ih, List.flatMap_cons]

theorem itemLeaves_eq (front : String) (index : Nat) (items : List Value) :
    itemLeaves front index items =
      (items.mapIdx fun i v => (Nat.repr (index + i), v)).flatMap
        fun b => leaves (dotted front b.1) b.2 := by
  induction items generalizing index with
  | nil => rfl
  | cons v items ih =>
    have hshift : ∀ i, index + 1 + i = index + (i + 1) := by omega
    rw [itemLeaves, ih, List.mapIdx_cons, List.flatMap_cons]
    simp only [hshift, Nat.add_zero]

theorem leaves_of_not_isScalar {v : Value} (h : ¬IsScalar v) (front : String) :
    leaves front v = (branches v).flatMap fun b => leaves (dotted front b.1) b.2 := by
  cases v with
  | object members => rw [leaves, memberLeaves_eq]; rfl
  | array items =>
    rw [leaves, itemLeaves_eq]
    simp only [Nat.zero_add, branches]
  | _ => exact absurd trivial h

theorem leaves_of_isScalar {v : Value} (h : IsScalar v) (front : String) :
    leaves front v = [(front, scalarText v)] := by
  cases v with
  | object members => exact absurd h id
  | array items => exact absurd h id
  | _ => rfl

/-- Branches one after the other, the first of which has the number `first`. -/
structure IsTour (first : Nat) (bs : List (String × Value)) (ls : List Leaf) : Prop where
  leaves : ∀ front, bs.flatMap (fun b => Variables.leaves (dotted front b.1) b.2) =
    ls.map fun l => (l.name front, l.text)
  mem : ∀ l, l ∈ ls ↔ ∃ (i : Nat) (key : String) (w : Value) (l' : Leaf),
    bs[i]? = some (key, w) ∧ l'.In w ∧ l = l'.below (first + i) key
  sorted : ls.Pairwise fun l l' => l.position < l'.position

theorem exists_tour {bs : List (String × Value)} (h : ∀ b ∈ bs, ∃ ls, IsTraversal b.2 ls)
    (first : Nat) : ∃ ls, IsTour first bs ls := by
  induction bs generalizing first with
  | nil => exact ⟨[], fun _ => rfl, by simp, .nil⟩
  | cons b bs ih =>
    obtain ⟨key, v⟩ := b
    obtain ⟨hv, hbs⟩ := List.forall_mem_cons.1 h
    obtain ⟨ls, htraversal⟩ := hv
    obtain ⟨rest, htour⟩ := ih hbs (first + 1)
    refine ⟨ls.map (Leaf.below first key) ++ rest, ?leaves, ?mem, ?sorted⟩
    case leaves =>
      intro front
      rw [List.flatMap_cons, htraversal.leaves, htour.leaves, List.map_append, List.map_map]
      rfl
    case mem =>
      intro l
      rw [List.mem_append, List.mem_map, htour.mem]
      constructor
      · rintro (⟨l', hl', rfl⟩ | ⟨i, key', w, l', hbranch, hin, rfl⟩)
        · exact ⟨0, key, v, l', rfl, (htraversal.mem l').1 hl', rfl⟩
        · exact ⟨i + 1, key', w, l', hbranch, hin, by rw [Nat.add_right_comm, Nat.add_assoc]⟩
      · rintro ⟨i, key', w, l', hbranch, hin, rfl⟩
        cases i with
        | zero =>
          obtain ⟨rfl, rfl⟩ : key = key' ∧ v = w := by simpa using hbranch
          exact .inl ⟨l', (htraversal.mem l').2 hin, rfl⟩
        | succ i =>
          exact .inr ⟨i, key', w, l', hbranch, hin, by rw [Nat.add_right_comm, Nat.add_assoc]⟩
    case sorted =>
      rw [List.pairwise_append, List.pairwise_map]
      refine ⟨htraversal.sorted.imp fun hlt => ?_, htour.sorted, ?_⟩
      · exact List.cons_lt_cons_iff.2 (.inr ⟨rfl, hlt⟩)
      · -- A leaf of the first branch and one behind it: the numbers of their branches decide.
        intro l hl l' hl'
        obtain ⟨below, -, rfl⟩ := List.mem_map.1 hl
        obtain ⟨i, key', w, later, -, -, rfl⟩ := (htour.mem l').1 hl'
        exact List.cons_lt_cons_iff.2 (.inl (by omega))

theorem isTraversal_of_isScalar {v : Value} (h : IsScalar v) : IsTraversal v [⟨[], [], v⟩] where
  leaves front := leaves_of_isScalar h front
  mem l := by rw [List.mem_singleton, Leaf.in_iff_of_isScalar h]
  sorted := List.pairwise_singleton _ _

theorem exists_traversal_of_branches {v : Value} (hv : ¬IsScalar v)
    (h : ∀ b ∈ branches v, ∃ ls, IsTraversal b.2 ls) : ∃ ls, IsTraversal v ls := by
  obtain ⟨ls, htour⟩ := exists_tour h 0
  refine ⟨ls, fun front => (leaves_of_not_isScalar hv front).trans (htour.leaves front), fun l => ?_,
    htour.sorted⟩
  simp only [htour.mem, Leaf.in_iff_of_not_isScalar hv, Nat.zero_add]

theorem exists_traversal (v : Value) : ∃ ls, IsTraversal v ls := by
  -- A scalar is its only leaf, and the branches of all others have traversals.
  induction v using induct_branches with
  | scalar v hscalar => exact ⟨_, isTraversal_of_isScalar hscalar⟩
  | node v hv ih => exact exists_traversal_of_branches hv ih

/-! ## What the last leaf of a name says -/

/-- What a value tells of a name: the text of the last leaf of this name. Nothing is told of the
empty name. -/
def Tells (front : String) (v : Value) (name text : String) : Prop :=
  name ≠ "" ∧ ∃ l : Leaf, l.IsLast front v ∧ l.name front = name ∧ l.text = text

/-- In a traversal nothing of its name stands behind the last leaf. -/
theorem IsTraversal.isLast_iff {v : Value} {ls : List Leaf} (h : IsTraversal v ls) {front : String}
    {l : Leaf} : l.IsLast front v ↔
      ∃ before after, ls = before ++ l :: after ∧ ∀ l' ∈ after, l'.name front ≠ l.name front := by
  constructor
  · intro hl
    obtain ⟨before, after, rfl⟩ := List.append_of_mem ((h.mem l).2 hl.isIn)
    refine ⟨before, after, rfl, fun l' hl' hname => ?_⟩
    have hlt : l.position < l'.position :=
      (List.pairwise_cons.1 (List.pairwise_append.1 h.sorted).2.1).1 l' hl'
    exact hl.last l' ((h.mem l').1 (List.mem_append_right _ (List.mem_cons_of_mem _ hl'))) hname hlt
  · rintro ⟨before, after, rfl, hafter⟩
    obtain ⟨-, hback, hfront⟩ := List.pairwise_append.1 h.sorted
    refine ⟨(h.mem l).1 (List.mem_append_right _ List.mem_cons_self), fun l' hl' hname hlt => ?_⟩
    rcases List.mem_append.1 ((h.mem l').2 hl') with hbefore | hrest
    · exact List.lt_asymm hlt (hfront l' hbefore l List.mem_cons_self)
    · rcases List.mem_cons.1 hrest with rfl | hlater
      · exact List.lt_irrefl _ hlt
      · exact hafter l' hlater hname

theorem exists_isLast_of_told {front : String} {v : Value} {name text : String}
    (htold : told? name (leaves front v) = some text) :
    ∃ l : Leaf, l.IsLast front v ∧ l.name front = name ∧ l.text = text := by
  obtain ⟨ls, h⟩ := exists_traversal v
  rw [h.leaves, told?_eq_some_iff] at htold
  obtain ⟨before, after, heq, hafter⟩ := htold
  obtain ⟨lsBefore, rest, hls, rfl, hrest⟩ := List.map_eq_append_iff.1 heq
  obtain ⟨l, lsAfter, rfl, hl, rfl⟩ := List.map_eq_cons_iff.1 hrest
  obtain ⟨rfl, rfl⟩ := Prod.mk.inj hl
  have hlast : l.IsLast front v :=
    h.isLast_iff.2 ⟨lsBefore, lsAfter, hls, fun l' hl' => hafter _ (List.mem_map_of_mem hl')⟩
  exact ⟨l, hlast, rfl, rfl⟩

theorem tells_iff {front : String} {v : Value} {name text : String} :
    Tells front v name text ↔ name ≠ "" ∧ told? name (leaves front v) = some text := by
  refine and_congr_right fun _ => ⟨?_, exists_isLast_of_told⟩
  rintro ⟨l, hlast, rfl, rfl⟩
  obtain ⟨ls, h⟩ := exists_traversal v
  obtain ⟨before, after, rfl, hafter⟩ := h.isLast_iff.1 hlast
  rw [h.leaves, told?_eq_some_iff]
  refine ⟨before.map _, after.map _, by rw [List.map_append, List.map_cons], ?_⟩
  exact List.forall_mem_map.2 hafter

theorem not_tells_iff {front : String} {v : Value} {name : String} (hname : name ≠ "") :
    (∀ text, ¬Tells front v name text) ↔ told? name (leaves front v) = none := by
  rw [Option.eq_none_iff_forall_ne_some]
  exact forall_congr' fun text => by rw [tells_iff, and_iff_right hname]

/-- A merged value overrides what it tells of, and nothing else. -/
theorem get?_merge_iff {vars : Variables} {front : String} {v : Value} {name text : String} :
    (vars.merge front v).get? name = some text ↔
      Tells front v name text ∨ (∀ t, ¬Tells front v name t) ∧ vars.get? name = some text := by
  rw [merge, get?_foldl]
  by_cases hname : name = ""
  · have hnone : ∀ t, ¬Tells front v name t := fun t ht => ht.1 hname
    simp [hname ▸ hnone, hname]
  · rw [if_neg hname, not_tells_iff hname, tells_iff, and_iff_right hname, Option.or_eq_some_iff]

/-- Two paths with one name: the later one counts. -/
example : (empty.merge "" (.object [("a", .object [("b", .text "first")]),
    ("a.b", .text "last")])).entries = [("a.b", "last")] := by decide +kernel

end Variables
end Walkthrough
