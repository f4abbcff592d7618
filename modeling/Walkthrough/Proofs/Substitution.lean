import Mathlib.Data.List.Permutation
import Walkthrough.Config.Plan
import Walkthrough.Proofs.ByteOrder
import Walkthrough.Proofs.Flattening
import Walkthrough.Proofs.Templates
import Walkthrough.Proofs.Trees
import Walkthrough.Proofs.Values

/-!
# Walkthrough.Proofs.Substitution

What becomes of the strings of an environment, and which of them is at fault.

* `isOrdered_of_parse`: the members of what is read are in the order of the bytes of their keys.
* `substitute_eq_ok_iff`: a filled in value has the shape of the value, each string filled in once.
* `exists_substitute_iff`: there is one if all variables are set.
* `substitute_eq_error_iff`: otherwise the first variable that is not set is told, with the path of
  its string.
* `loaded_of_document` puts them together for the profile of an environment.
-/

namespace Walkthrough
namespace Config

open Json Files Variables

/-! ## The order of members -/

/-- All members are in the order of the bytes of their keys. -/
inductive IsOrdered : Value → Prop where
  | null : IsOrdered .null
  | boolean (b : Bool) : IsOrdered (.boolean b)
  | number (n : Number) : IsOrdered (.number n)
  | text (s : String) : IsOrdered (.text s)
  | array {vs : List Value} : (∀ v ∈ vs, IsOrdered v) → IsOrdered (.array vs)
  | object {ms : List (String × Value)} :
      (ms.Pairwise fun m m' => Text.bytes m.1 < Text.bytes m'.1) → (∀ m ∈ ms, IsOrdered m.2) →
      IsOrdered (.object ms)

theorem isOrdered_of_isRead {depth : Nat} {v : Value} (h : v.IsRead depth) : IsOrdered v := by
  induction h with
  | null => exact .null
  | boolean b => exact .boolean b
  | @number _ n => exact .number n
  | text s => exact .text s
  | array _ _ ih => exact .array ih
  | object _ hascending _ ih => exact .object (hascending.imp Text.lt_iff_bytes_lt.1) ih

theorem isOrdered_of_parse {text : String} {v : Value} (h : Json.parse text = .ok v) :
    IsOrdered v := by
  unfold Json.parse readWith at h
  obtain ⟨v', hvalue, h⟩ := ok_bind_iff.1 h
  split at h
  · cases h
  · cases h
    exact isOrdered_of_isRead (isRead_of_value 0 _ hvalue)

variable {vars : String → Option String} {path : String}

/-! ## Strings -/

/-- `t` is the text `s` in which every place has the value of its name. -/
def IsFilled (vars : String → Option String) (s t : String) : Prop :=
  ∃ ss, Template.Cuts s.toList ss ∧ (∀ n ∈ Template.namesOf ss, (vars n).isSome) ∧
    t.toList = ss.flatMap (Template.Span.filled vars)

theorem isFilled_iff {s t : String} :
    IsFilled vars s t ↔ (∀ n ∈ Template.names s, (vars n).isSome) ∧
      t.toList = (Template.spans s.toList).flatMap (Template.Span.filled vars) := by
  simp only [IsFilled, Template.cuts_iff, exists_eq_left]
  rfl

theorem substitute_text_eq_ok_iff {s : String} {w : Value} :
    substitute vars path (.text s) = .ok w ↔ ∃ t, IsFilled vars s t ∧ w = .text t := by
  rw [Template.substitute_text, ok_map_iff]
  refine exists_congr fun t => ?_
  rw [(Template.isFilledIn vars s path).ok, isFilled_iff, eq_comm (a := w)]
  rfl

theorem substitute_text_eq_error_iff {s : String} {f : Failure} :
    substitute vars path (.text s) = .error f ↔
      ∃ n, Template.missing? vars (Template.names s) = some n ∧ f = .unresolved n path := by
  rw [Template.substitute_text, error_map_iff]
  exact (Template.isFilledIn vars s path).error f

theorem exists_substitute_text_iff {s : String} :
    (∃ w, substitute vars path (.text s) = .ok w) ↔
      ∀ n ∈ Template.names s, (vars n).isSome := by
  simp only [substitute_text_eq_ok_iff, isFilled_iff]
  constructor
  · rintro ⟨-, t, ⟨hset, -⟩, -⟩
    exact hset
  · intro hset
    exact ⟨_, String.ofList _, ⟨hset, String.toList_ofList⟩, rfl⟩

/-! ## Values -/

/-- Two values of one shape whose texts are related. -/
inductive Alike (R : String → String → Prop) : Value → Value → Prop where
  | null : Alike R .null .null
  | boolean (b : Bool) : Alike R (.boolean b) (.boolean b)
  | number (n : Number) : Alike R (.number n) (.number n)
  | text {s t : String} : R s t → Alike R (.text s) (.text t)
  | array {vs ws : List Value} : List.Forall₂ (Alike R) vs ws → Alike R (.array vs) (.array ws)
  | object {ms ns : List (String × Value)} : ms.map Prod.fst = ns.map Prod.fst →
      List.Forall₂ (Alike R) (ms.map Prod.snd) (ns.map Prod.snd) → Alike R (.object ms) (.object ns)

theorem substituteItems_eq_ok_iff {vs ws : List Value}
    (h : ∀ v ∈ vs, ∀ path w, substitute vars path v = .ok w ↔ Alike (IsFilled vars) v w)
    (index : Nat) :
    substituteItems vars path index vs = .ok ws ↔ List.Forall₂ (Alike (IsFilled vars)) vs ws := by
  induction vs generalizing index ws with
  | nil => simp [substituteItems, eq_comm]
  | cons v vs ih =>
    obtain ⟨hv, hvs⟩ := List.forall_mem_cons.1 h
    rw [substituteItems, ok_bind_iff, List.forall₂_cons_left_iff]
    refine exists_congr fun w => ?_
    rw [hv, bind_pure_eq_map, ok_map_iff]
    simp only [ih hvs, eq_comm (b := ws), exists_and_left]

theorem substituteMembers_eq_ok_iff {ms ns : List (String × Value)}
    (h : ∀ m ∈ ms, ∀ path w, substitute vars path m.2 = .ok w ↔ Alike (IsFilled vars) m.2 w) :
    substituteMembers vars path ms = .ok ns ↔
      ms.map Prod.fst = ns.map Prod.fst ∧
        List.Forall₂ (Alike (IsFilled vars)) (ms.map Prod.snd) (ns.map Prod.snd) := by
  induction ms generalizing ns with
  | nil => cases ns <;> simp [substituteMembers]
  | cons m ms ih =>
    obtain ⟨key, v⟩ := m
    obtain ⟨hv, hms⟩ := List.forall_mem_cons.1 h
    rw [substituteMembers, ok_bind_iff]
    simp only [bind_pure_eq_map, ok_map_iff, hv, ih hms]
    cases ns with
    | nil => simp
    | cons n ns =>
      obtain ⟨key', w⟩ := n
      simp only [List.map_cons, List.cons.injEq, List.forall₂_cons, Prod.mk.injEq]
      constructor
      · rintro ⟨w, hw, ns, ⟨hkeys, hvalues⟩, ⟨rfl, rfl⟩, rfl⟩
        exact ⟨⟨rfl, hkeys⟩, hw, hvalues⟩
      · rintro ⟨⟨rfl, hkeys⟩, hw, hvalues⟩
        exact ⟨w, hw, ns, ⟨hkeys, hvalues⟩, ⟨rfl, rfl⟩, rfl⟩

/-- What a value is filled in to does not depend on the path that is told of faults. -/
theorem substitute_eq_ok_iff {v w : Value} :
    substitute vars path v = .ok w ↔ Alike (IsFilled vars) v w := by
  induction v using Value.induct generalizing path w with
  | null =>
    rw [substitute, Except.ok.injEq]
    exact ⟨fun h => h ▸ .null, fun h => by cases h; rfl⟩
  | boolean b =>
    rw [substitute, Except.ok.injEq]
    exact ⟨fun h => h ▸ .boolean b, fun h => by cases h; rfl⟩
  | number n =>
    rw [substitute, Except.ok.injEq]
    exact ⟨fun h => h ▸ .number n, fun h => by cases h; rfl⟩
  | text s =>
    rw [substitute_text_eq_ok_iff]
    constructor
    · rintro ⟨t, ht, rfl⟩
      exact .text ht
    · intro h
      cases h with
      | text ht => exact ⟨_, ht, rfl⟩
  | array vs ih =>
    rw [substitute, ok_map_iff]
    simp only [substituteItems_eq_ok_iff fun v hv path w => ih v hv]
    constructor
    · rintro ⟨ws, hws, rfl⟩
      exact .array hws
    · intro h
      cases h with
      | array hws => exact ⟨_, hws, rfl⟩
  | object ms ih =>
    rw [substitute, ok_map_iff]
    simp only [substituteMembers_eq_ok_iff fun m hm path w => ih m hm]
    constructor
    · rintro ⟨ns, ⟨hkeys, hvalues⟩, rfl⟩
      exact .object hkeys hvalues
    · intro h
      cases h with
      | object hkeys hvalues => exact ⟨_, ⟨hkeys, hvalues⟩, rfl⟩

/-! ## Faults -/

/-- Every variable in a string is set. All other scalars have none. -/
def IsSet (vars : String → Option String) (l : Leaf) : Prop :=
  ∀ s, l.scalar = .text s → ∀ n ∈ Template.names s, (vars n).isSome

/-- The first variable of a value that is not set is `n`, in the string `l`. -/
structure IsFirstUnset (vars : String → Option String) (v : Value) (l : Leaf) (n : String) :
    Prop where
  isIn : l.In v
  unset : ∃ s, l.scalar = .text s ∧ Template.missing? vars (Template.names s) = some n
  earlier : ∀ l' : Leaf, l'.In v → l'.position < l.position → IsSet vars l'

/-- The dotted path of a leaf of a value with the path `path`. -/
def fieldOf (path : String) (l : Leaf) : String := ".".intercalate (path :: l.path)

theorem fieldOf_below (path key : String) (i : Nat) (l : Leaf) :
    fieldOf path (l.below i key) = fieldOf (path ++ "." ++ key) l := rfl

/-- Items are filled in as members whose keys are the indices. -/
theorem substituteItems_eq (index : Nat) (vs : List Value) :
    substituteItems vars path index vs =
      (substituteMembers vars path (vs.mapIdx fun i v => (Nat.repr (index + i), v))).map
        (List.map Prod.snd) := by
  induction vs generalizing index with
  | nil => rfl
  | cons v vs ih =>
    have hshift : ∀ i, index + 1 + i = index + (i + 1) := by omega
    rw [substituteItems, ih, List.mapIdx_cons, substituteMembers, Nat.add_zero]
    simp only [hshift]
    cases substitute vars (path ++ "." ++ Nat.repr index) v with
    | error f => rfl
    | ok w =>
      cases substituteMembers vars path (vs.mapIdx fun i v => (Nat.repr (index + (i + 1)), v)) <;>
        rfl

/-- Filling in a value that is no scalar is filling in its branches. -/
theorem exists_substitute_eq {v : Value} (hv : ¬IsScalar v) :
    ∃ whole : List (String × Value) → Value, ∀ path,
      substitute vars path v = (substituteMembers vars path (branches v)).map whole := by
  cases v with
  | object ms => exact ⟨.object, fun path => by rw [substitute, branches]⟩
  | array vs =>
    refine ⟨fun ms => .array (ms.map Prod.snd), fun path => ?_⟩
    rw [substitute, substituteItems_eq, branches]
    simp only [Nat.zero_add]
    cases substituteMembers vars path (vs.mapIdx fun i v => (Nat.repr i, v)) <;> rfl
  | _ => exact absurd trivial hv

theorem exists_substituteMembers_iff {ms : List (String × Value)} :
    (∃ ns, substituteMembers vars path ms = .ok ns) ↔
      ∀ m ∈ ms, ∃ w, substitute vars (path ++ "." ++ m.1) m.2 = .ok w := by
  induction ms with
  | nil => simp [substituteMembers]
  | cons m ms ih =>
    obtain ⟨key, v⟩ := m
    rw [List.forall_mem_cons, ← ih]
    simp only [substituteMembers, ok_bind_iff, bind_pure_eq_map, ok_map_iff]
    constructor
    · rintro ⟨-, w, hw, ns, hns, -⟩
      exact ⟨⟨w, hw⟩, ns, hns⟩
    · rintro ⟨⟨w, hw⟩, ns, hns⟩
      exact ⟨_, w, hw, ns, hns, rfl⟩

/-- The first branch at fault tells the fault. -/
theorem substituteMembers_eq_error_iff {ms : List (String × Value)} {f : Failure} :
    substituteMembers vars path ms = .error f ↔
      ∃ (i : Nat) (key : String) (v : Value), ms[i]? = some (key, v) ∧
        substitute vars (path ++ "." ++ key) v = .error f ∧
        ∀ m ∈ ms.take i, ∃ w, substitute vars (path ++ "." ++ m.1) m.2 = .ok w := by
  induction ms with
  | nil => simp [substituteMembers]
  | cons m ms ih =>
    obtain ⟨key, v⟩ := m
    rw [substituteMembers, error_bind_iff]
    simp only [bind_pure_eq_map, error_map_iff, ih]
    constructor
    · rintro (hfirst | ⟨w, hw, i, key', v', hbranch, hfault, hearlier⟩)
      · exact ⟨0, key, v, rfl, hfirst, List.forall_mem_nil _⟩
      · exact ⟨i + 1, key', v', hbranch, hfault, List.forall_mem_cons.2 ⟨⟨w, hw⟩, hearlier⟩⟩
    · rintro ⟨i, key', v', hbranch, hfault, hearlier⟩
      cases i with
      | zero =>
        obtain ⟨rfl, rfl⟩ : key = key' ∧ v = v' := by simpa using hbranch
        exact .inl hfault
      | succ i =>
        obtain ⟨⟨w, hw⟩, hearlier⟩ := List.forall_mem_cons.1 hearlier
        exact .inr ⟨w, hw, i, key', v', hbranch, hfault, hearlier⟩

theorem forall_isSet_iff {v : Value} (hv : ¬IsScalar v) :
    (∀ l : Leaf, l.In v → IsSet vars l) ↔
      ∀ b ∈ branches v, ∀ l : Leaf, l.In b.2 → IsSet vars l := by
  constructor
  · intro h b hb l hl
    obtain ⟨i, hi⟩ := List.mem_iff_getElem?.1 hb
    exact h (l.below i b.1) (.branch hi hl)
  · intro h l hl
    obtain ⟨i, key, w, l', hbranch, hin, rfl⟩ := (Leaf.in_iff_of_not_isScalar hv).1 hl
    exact h (key, w) (List.mem_of_getElem? hbranch) l' hin

theorem exists_substitute_iff {v : Value} :
    (∃ w, substitute vars path v = .ok w) ↔ ∀ l : Leaf, l.In v → IsSet vars l := by
  induction v using induct_branches generalizing path with
  | scalar v hscalar =>
    simp only [Leaf.in_iff_of_isScalar hscalar, forall_eq, IsSet]
    cases v with
    | text s => simp [exists_substitute_text_iff]
    | array vs => exact absurd hscalar id
    | object ms => exact absurd hscalar id
    | _ => simp [substitute]
  | node v hv ih =>
    obtain ⟨whole, hwhole⟩ := @exists_substitute_eq vars v hv
    rw [forall_isSet_iff hv]
    simp only [hwhole, ok_map_iff]
    rw [exists_comm]
    simp only [exists_and_left, exists_eq', and_true]
    rw [exists_substituteMembers_iff]
    exact forall₂_congr fun b hb => ih b hb

/-- The first variable that is not set is the first one of the first branch that has any. -/
theorem isFirstUnset_iff {v : Value} (hv : ¬IsScalar v) {l : Leaf} {n : String} :
    IsFirstUnset vars v l n ↔
      ∃ (i : Nat) (key : String) (w : Value) (l' : Leaf), (branches v)[i]? = some (key, w) ∧
        IsFirstUnset vars w l' n ∧ l = l'.below i key ∧
        ∀ b ∈ (branches v).take i, ∀ l : Leaf, l.In b.2 → IsSet vars l := by
  constructor
  · rintro ⟨hin, hunset, hearlier⟩
    obtain ⟨i, key, w, l', hbranch, hin', rfl⟩ := (Leaf.in_iff_of_not_isScalar hv).1 hin
    refine ⟨i, key, w, l', hbranch, ⟨hin', hunset, ?same⟩, rfl, ?before⟩
    case same =>
      intro l'' hl'' hlt
      exact hearlier (l''.below i key) (.branch hbranch hl'')
        (List.cons_lt_cons_iff.2 (.inr ⟨rfl, hlt⟩))
    case before =>
      intro b hb l'' hl''
      obtain ⟨j, hj, hget⟩ := List.mem_take_iff_getElem.1 hb
      have hbranch' : (branches v)[j]? = some (b.1, b.2) := by
        rw [List.getElem?_eq_getElem (by omega), hget]
      exact hearlier (l''.below j b.1) (.branch hbranch' hl'')
        (List.cons_lt_cons_iff.2 (.inl (by omega)))
  · rintro ⟨i, key, w, l', hbranch, ⟨hin, hunset, hearlier⟩, rfl, hbefore⟩
    refine ⟨.branch hbranch hin, hunset, fun l hl hlt => ?_⟩
    obtain ⟨j, key', w', l'', hbranch', hin', rfl⟩ := (Leaf.in_iff_of_not_isScalar hv).1 hl
    rcases List.cons_lt_cons_iff.1 hlt with hbranches | ⟨rfl, hleaves⟩
    · refine hbefore (key', w') ?_ l'' hin'
      exact List.mem_of_getElem? ((List.getElem?_take_of_lt hbranches).trans hbranch')
    · obtain ⟨rfl, rfl⟩ := Prod.mk.inj (Option.some.inj (hbranch.symm.trans hbranch'))
      exact hearlier l'' hin' hleaves

theorem isFirstUnset_iff_of_isScalar {v : Value} (hscalar : IsScalar v) {l : Leaf} {n : String} :
    IsFirstUnset vars v l n ↔
      l = ⟨[], [], v⟩ ∧ ∃ s, v = .text s ∧ Template.missing? vars (Template.names s) = some n := by
  constructor
  · rintro ⟨hin, hunset, -⟩
    obtain rfl := (Leaf.in_iff_of_isScalar hscalar).1 hin
    exact ⟨rfl, hunset⟩
  · rintro ⟨rfl, hunset⟩
    exact ⟨.scalar hscalar, hunset, fun l' _ hlt => absurd hlt (List.not_lt_nil _)⟩

theorem substitute_eq_error_iff {v : Value} {f : Failure} :
    substitute vars path v = .error f ↔
      ∃ l n, IsFirstUnset vars v l n ∧ f = .unresolved n (fieldOf path l) := by
  induction v using induct_branches generalizing path with
  | scalar v hscalar =>
    simp only [isFirstUnset_iff_of_isScalar hscalar]
    cases v with
    | text s =>
      rw [substitute_text_eq_error_iff]
      constructor
      · rintro ⟨n, hmissing, rfl⟩
        exact ⟨_, n, ⟨rfl, s, rfl, hmissing⟩, rfl⟩
      · rintro ⟨-, n, ⟨rfl, s', hs', hmissing⟩, rfl⟩
        cases hs'
        exact ⟨n, hmissing, rfl⟩
    | array vs => exact absurd hscalar id
    | object ms => exact absurd hscalar id
    | _ => simp [substitute]
  | node v hv ih =>
    obtain ⟨whole, hwhole⟩ := @exists_substitute_eq vars v hv
    rw [hwhole, error_map_iff, substituteMembers_eq_error_iff]
    simp only [isFirstUnset_iff hv, exists_substitute_iff]
    constructor
    · rintro ⟨i, key, w, hbranch, hfault, hearlier⟩
      obtain ⟨l, n, hfirst, rfl⟩ := (ih _ (List.mem_of_getElem? hbranch)).1 hfault
      refine ⟨l.below i key, n, ⟨i, key, w, l, hbranch, hfirst, rfl, hearlier⟩, ?_⟩
      rw [fieldOf_below]
    · rintro ⟨-, n, ⟨i, key, w, l, hbranch, hfirst, rfl, hearlier⟩, rfl⟩
      rw [fieldOf_below]
      have hfault := (ih _ (List.mem_of_getElem? hbranch)).2 ⟨l, n, hfirst, rfl⟩
      exact ⟨i, key, w, hbranch, hfault, hearlier⟩

/-! ## Profiles -/

/-- What filling in a value with the path `path` gives. -/
structure IsSubstitution (vars : String → Option String) (path : String) (v : Value)
    (r : Except Failure Value) : Prop where
  succeeds : (∃ w, r = .ok w) ↔ ∀ l : Leaf, l.In v → IsSet vars l
  ok : ∀ w, r = .ok w ↔ Alike (IsFilled vars) v w
  error : ∀ f, r = .error f ↔
    ∃ l n, IsFirstUnset vars v l n ∧ f = .unresolved n (fieldOf path l)

theorem isSubstitution (vars : String → Option String) (path : String) (v : Value) :
    IsSubstitution vars path v (substitute vars path v) where
  succeeds := exists_substitute_iff
  ok _ := substitute_eq_ok_iff
  error _ := substitute_eq_error_iff

/-- The members of the document of a profile are in order. Filling it in succeeds if all its variables
are set, and gives a value of the same shape in which each string is filled in once; otherwise it
tells the first variable that is not set, with the path of its string. The profile is what the filled
in document is read as, and where there is no such document, this fault is why. -/
theorem loaded_of_document {tree : Tree} {path text : String} {v : Value}
    (hread : tree.readText path = .ok text) (hparse : Json.parse text = .ok v) :
    IsOrdered v ∧
      ∀ vars : String → Option String,
        (∀ field, IsSubstitution vars field v (substitute vars field v)) ∧
        (∀ w, Alike (IsFilled vars) v w →
          Environment.load tree vars path =
            (Environment.ofValue w).mapError (.profileInvalid path)) ∧
        ∀ l n, IsFirstUnset vars v l n →
          Environment.load tree vars path =
            .error (.environmentUnresolved path (.unresolved n (fieldOf "environment" l))) := by
  refine ⟨isOrdered_of_parse hparse, fun vars => ⟨fun field => isSubstitution vars field v, ?_, ?_⟩⟩
  · intro w hw
    simp only [Environment.load, hread, hparse, substitute_eq_ok_iff.2 hw]
    cases Environment.ofValue w <;> rfl
  · intro l n hfirst
    simp only [Environment.load, hread, hparse, substitute_eq_error_iff.2 ⟨l, n, hfirst, rfl⟩]

namespace Sample

/-- A profile whose members are not in order. -/
def profileText : String :=
  "\x7b\"b\": [\"$\x7bA\x7d\", true, \"$\x7bB\x7d$\x7bC\x7d\"], \"a\": \"$\x7bB\x7d\"\x7d"

def profile : Value :=
  .object
    [("a", .text "$\x7bB\x7d"),
      ("b", .array [.text "$\x7bA\x7d", .boolean true, .text "$\x7bB\x7d$\x7bC\x7d"])]

def profileTree : Tree := ⟨[(["dev.json"], .file profileText.toUTF8)]⟩

/-- One variable has a place in its value, another is not set. -/
def profileVars (name : String) : Option String :=
  if name = "A" then some "$\x7bC\x7d" else if name = "B" then some "2" else none

/-- The same, with the other one set. -/
def allVars (name : String) : Option String :=
  if name = "C" then some "3" else profileVars name

theorem readText_profile : profileTree.readText "dev.json" = .ok profileText :=
  Tree.readText_of_read (Tree.read_eq_ok_iff.2 ⟨["dev.json"], by decide +kernel, rfl⟩)

theorem parse_profile : Json.parse profileText = .ok profile := by cbv

theorem loaded_of_profile :
    profileTree.readText "dev.json" = .ok profileText ∧ Json.parse profileText = .ok profile ∧
      IsOrdered profile ∧
      Alike (IsFilled allVars) profile (.object
        [("a", .text "2"), ("b", .array [.text "$\x7bC\x7d", .boolean true, .text "23"])]) ∧
      ∃ l, IsFirstUnset profileVars profile l "C" ∧
        Environment.load profileTree profileVars "dev.json" =
          .error (.environmentUnresolved "dev.json" (.unresolved "C" "environment.b.2")) := by
  obtain ⟨hordered, hvars⟩ := loaded_of_document readText_profile parse_profile
  have hfilled := ((hvars allVars).1 "environment").ok
  have hfault : substitute profileVars "environment" profile =
      .error (.unresolved "C" "environment.b.2") := by cbv
  obtain ⟨hsubstitution, -, hrefused⟩ := hvars profileVars
  obtain ⟨l, n, hfirst, hfield⟩ := ((hsubstitution "environment").error _).1 hfault
  obtain ⟨rfl, hpath⟩ := Failure.unresolved.inj hfield
  refine ⟨readText_profile, parse_profile, hordered, (hfilled _).1 (by cbv), l, hfirst, ?_⟩
  rw [hrefused l _ hfirst, ← hpath]

end Sample

end Config
end Walkthrough
