import Mathlib.Data.String.Basic
import Walkthrough.Proofs.Basic
import Walkthrough.Proofs.Magnitudes
import Walkthrough.Proofs.Schemas

/-!
# Walkthrough.Proofs.Values

What was read as a value is read again from its own text as it was.

The one thing that reading does not give is that a floating point number is read back from its own
text, so this is asked of the numbers that a value has (`ReadsBack`).

* `isRead_of_number`, `number_numeral`: a numeral stands for a number within its bounds, and such a
  number is read back.
* `orderMembers_of_isAscending`: members that are in order stay so.
* `isRead_of_value`: what a text is read as, its members in ascending order.
* `isStable_of_value`: such a value is read again from its own draft, at the depth at which it stood.
-/

namespace Walkthrough
namespace Json

/-! ## Numbers -/

/-- A floating point number is read back from its text, if it has one. -/
def ReadsBack (x : Binary64) : Prop := x.isFinite = true → IsReadBack x

/-- The floating point number that a number is, if it is one. -/
def Number.reals : Number → List Binary64
  | .real x => [x]
  | .natural _ | .negative _ => []

/-- What a numeral may stand for. -/
def Number.IsRead : Number → Prop
  | .natural n => n < twoTo 64
  | .negative n => n ≠ 0 ∧ n ≤ twoTo 63
  | .real x => x.isFinite = true

theorem takeSignificand_lt {n : Nat} (h : n < twoTo 64) (ds : List Char) :
    (takeSignificand n ds).1 < twoTo 64 := by
  induction ds generalizing n with
  | nil => exact h
  | cons c cs ih =>
    simp only [takeSignificand]
    split
    · next hfits => exact ih hfits
    · exact h

theorem significand_lt (m : Numeral) : m.significand.1 < twoTo 64 :=
  takeSignificand_lt (takeSignificand_lt (twoTo_pos 64) m.whole) m.fraction

theorem isRead_of_number {m : Numeral} {n : Number} (h : m.number = .ok n) : n.IsRead := by
  have hwhole : (takeSignificand 0 m.whole).1 < twoTo 64 :=
    takeSignificand_lt (twoTo_pos 64) m.whole
  simp only [Numeral.number] at h
  split at h
  · split at h
    · cases h
      exact hwhole
    · split at h
      · cases h
        rfl
      · split at h
        · next hzero hsmall =>
          cases h
          exact ⟨hzero, hsmall⟩
        · cases h
          exact Binary64.isFinite_ofNat hwhole
  · split at h
    · next x hresult =>
      cases h
      split at hresult
      · exact Binary64.isFinite_scaled (significand_lt m) hresult
      · split at hresult
        · exact Binary64.isFinite_scaled (significand_lt m) hresult
        · split at hresult
          · cases hresult
          · cases hresult
            rfl
    · cases h

/-- The number that was read is read again. -/
theorem number_numeral {n : Number} (h : n.IsRead) (hreals : ∀ x ∈ n.reals, ReadsBack x) :
    n.numeral.number = .ok n := by
  cases n with
  | natural n => exact (congrArg Numeral.number (Number.numeral_natural n)).trans (number_ofNat h)
  | negative n =>
    exact (congrArg Numeral.number (Number.numeral_negative n)).trans
      (number_ofNat_negative h.1 h.2)
  | real x => exact (isReadBack_iff h).1 (hreals x List.mem_cons_self h)

theorem Number.IsRead.isFinite {n : Number} (h : n.IsRead) : n.IsFinite := by
  cases n with
  | real x => exact h
  | _ => trivial

/-! ## Members in order -/

section Members

variable {α : Type} {ms : List (String × α)} {m : String × α} {key : String} {value : α}

/-- Members in ascending order of their keys. -/
def IsAscending (ms : List (String × α)) : Prop := ms.Pairwise fun m m' => m.1 < m'.1

theorem mem_insertMember (h : m ∈ insertMember key value ms) : m = (key, value) ∨ m ∈ ms := by
  induction ms with
  | nil => exact .inl (List.mem_singleton.1 h)
  | cons m' rest ih =>
    obtain ⟨k, v⟩ := m'
    simp only [insertMember] at h
    split at h
    · exact List.mem_cons.1 h
    · split at h
      · exact (List.mem_cons.1 h).imp_right (List.mem_cons_of_mem _)
      · rcases List.mem_cons.1 h with rfl | h
        · exact .inr List.mem_cons_self
        · exact (ih h).imp_right (List.mem_cons_of_mem _)

theorem isAscending_insertMember (h : IsAscending ms) :
    IsAscending (insertMember key value ms) := by
  induction ms with
  | nil => exact List.pairwise_singleton _ _
  | cons m rest ih =>
    obtain ⟨k, v⟩ := m
    obtain ⟨hfirst, hrest⟩ := List.pairwise_cons.1 h
    simp only [insertMember]
    split
    · next hlt =>
      refine List.pairwise_cons.2 ⟨List.forall_mem_cons.2 ⟨hlt, fun m hm => ?_⟩, h⟩
      exact lt_trans hlt (hfirst m hm)
    · next hnot =>
      split
      · next heq => exact List.pairwise_cons.2 ⟨heq ▸ hfirst, hrest⟩
      · next hne =>
        have hgt : k < key := lt_of_le_of_ne (not_lt.1 hnot) (Ne.symm hne)
        refine List.pairwise_cons.2 ⟨fun m hm => ?_, ih hrest⟩
        rcases mem_insertMember hm with rfl | hm
        · exact hgt
        · exact hfirst m hm

theorem isAscending_orderMembers (ms : List (String × α)) : IsAscending (orderMembers ms) := by
  have hfold (ms acc : List (String × α)) (hacc : IsAscending acc) :
      IsAscending (ms.foldl (fun ms m => insertMember m.1 m.2 ms) acc) := by
    induction ms generalizing acc with
    | nil => exact hacc
    | cons m ms ih => exact ih _ (isAscending_insertMember hacc)
  exact hfold ms [] .nil

theorem mem_orderMembers (h : m ∈ orderMembers ms) : m ∈ ms := by
  have hfold (ms acc : List (String × α))
      (h : m ∈ ms.foldl (fun ms m => insertMember m.1 m.2 ms) acc) : m ∈ acc ∨ m ∈ ms := by
    induction ms generalizing acc with
    | nil => exact .inl h
    | cons m' ms ih =>
      rcases ih _ h with hacc | hms
      · rcases mem_insertMember hacc with rfl | hacc
        · exact .inr List.mem_cons_self
        · exact .inl hacc
      · exact .inr (List.mem_cons_of_mem _ hms)
  exact (hfold ms [] h).resolve_left List.not_mem_nil

theorem insertMember_of_lt (h : ∀ m ∈ ms, m.1 < key) :
    insertMember key value ms = ms ++ [(key, value)] := by
  induction ms with
  | nil => rfl
  | cons m rest ih =>
    obtain ⟨hm, hrest⟩ := List.forall_mem_cons.1 h
    simp only [insertMember, if_neg (lt_asymm hm), if_neg (ne_of_gt hm), ih hrest,
      List.cons_append]

/-- Members in order stay in their order. -/
theorem orderMembers_of_isAscending (h : IsAscending ms) : orderMembers ms = ms := by
  have hfold (ms acc : List (String × α)) (h : IsAscending (acc ++ ms)) :
      ms.foldl (fun ms m => insertMember m.1 m.2 ms) acc = acc ++ ms := by
    induction ms generalizing acc with
    | nil => exact (List.append_nil acc).symm
    | cons m ms ih =>
      have hlt := fun m' hm' => (List.pairwise_append.1 h).2.2 m' hm' m List.mem_cons_self
      rw [List.foldl_cons, insertMember_of_lt hlt, ih _ (by simpa using h), List.append_assoc,
        List.singleton_append]
  exact hfold ms [] h

end Members

/-! ## Values -/

mutual

/-- The floating point numbers of a value. -/
def Value.reals : Value → List Binary64
  | .null | .boolean _ | .text _ => []
  | .number n => n.reals
  | .array vs => itemReals vs
  | .object ms => memberReals ms

def itemReals : List Value → List Binary64
  | [] => []
  | v :: vs => v.reals ++ itemReals vs

def memberReals : List (String × Value) → List Binary64
  | [] => []
  | (_, v) :: ms => v.reals ++ memberReals ms

end

theorem itemReals_eq (vs : List Value) : itemReals vs = vs.flatMap Value.reals := by
  induction vs with
  | nil => rfl
  | cons v vs ih => rw [itemReals, ih, List.flatMap_cons]

theorem memberReals_eq (ms : List (String × Value)) :
    memberReals ms = ms.flatMap fun m => m.2.reals := by
  induction ms with
  | nil => rfl
  | cons m ms ih =>
    obtain ⟨k, v⟩ := m
    rw [memberReals, ih, List.flatMap_cons]

/-- A value is read as it was from its draft, if its floating point numbers are. -/
def Value.IsStable (depth : Nat) (v : Value) : Prop :=
  (∀ x ∈ v.reals, ReadsBack x) → v.IsFinite ∧ v.draft.value depth = .ok v

theorem itemValues_itemDrafts {depth : Nat} {vs : List Value}
    (h : ∀ v ∈ vs, v.draft.value depth = .ok v) : itemValues depth (itemDrafts vs) = .ok vs := by
  induction vs with
  | nil => rfl
  | cons v vs ih =>
    obtain ⟨hv, hvs⟩ := List.forall_mem_cons.1 h
    rw [itemDrafts, itemValues, hv, ih hvs]
    rfl

theorem memberValues_memberDrafts {depth : Nat} {ms : List (String × Value)}
    (h : ∀ m ∈ ms, m.2.draft.value depth = .ok m.2) :
    memberValues depth (memberDrafts ms) = .ok ms := by
  induction ms with
  | nil => rfl
  | cons m ms ih =>
    obtain ⟨k, v⟩ := m
    obtain ⟨hv, hms⟩ := List.forall_mem_cons.1 h
    rw [memberDrafts, memberValues, text_quoted, hv, ih hms]
    rfl

theorem ok_of_orFault {α : Type} {a b : α} {fault? : Option Fault} (h : orFault a fault? = .ok b) :
    a = b := by
  cases fault? with
  | none => exact Except.ok.inj h
  | some f => cases h

theorem ok_of_deeper {depth next : Nat} (h : deeper depth = .ok next) :
    next = depth + 1 ∧ depth + 1 < depthLimit := by
  unfold deeper at h
  split at h
  · next hbelow =>
    cases h
    exact ⟨rfl, hbelow⟩
  · cases h

section Stable

variable {depth : Nat}

theorem isStable_number {n : Number} (h : n.IsRead) : (Value.number n).IsStable depth := by
  intro hreals
  refine ⟨.number h.isFinite, ?_⟩
  rw [Value.draft, Draft.value, number_numeral h hreals]
  rfl

theorem isStable_array {vs : List Value} (hdepth : depth + 1 < depthLimit)
    (h : ∀ v ∈ vs, v.IsStable (depth + 1)) : (Value.array vs).IsStable depth := by
  intro hreals
  rw [Value.reals, itemReals_eq, List.forall_mem_flatMap] at hreals
  have hall (v : Value) (hv : v ∈ vs) := h v hv (hreals v hv)
  refine ⟨.array fun v hv => (hall v hv).1, ?_⟩
  rw [Value.draft, Draft.value]
  change (deeper depth).bind (fun depth => (itemValues depth (itemDrafts vs)).bind fun vs =>
    .ok (Value.array vs)) = .ok (Value.array vs)
  rw [deeper_bind hdepth, itemValues_itemDrafts fun v hv => (hall v hv).2]
  rfl

theorem isStable_object {ms : List (String × Value)} (hdepth : depth + 1 < depthLimit)
    (horder : orderMembers ms = ms) (h : ∀ m ∈ ms, m.2.IsStable (depth + 1)) :
    (Value.object ms).IsStable depth := by
  intro hreals
  rw [Value.reals, memberReals_eq, List.forall_mem_flatMap] at hreals
  have hall (m : String × Value) (hm : m ∈ ms) := h m hm (hreals m hm)
  refine ⟨.object fun m hm => (hall m hm).1, ?_⟩
  rw [Value.draft, Draft.value]
  change (deeper depth).bind (fun depth => (memberValues depth (memberDrafts ms)).bind fun ms =>
    .ok (Value.object (orderMembers ms))) = .ok (Value.object ms)
  rw [deeper_bind hdepth, memberValues_memberDrafts fun m hm => (hall m hm).2]
  exact congrArg (fun ms => Except.ok (Value.object ms)) horder

end Stable

/-- What a text may be read as at a depth: each number fits, members are in ascending order, and
nothing is nested too deeply. -/
inductive Value.IsRead : Nat → Value → Prop where
  | null {depth : Nat} : Value.IsRead depth .null
  | boolean {depth : Nat} (b : Bool) : Value.IsRead depth (.boolean b)
  | number {depth : Nat} {n : Number} : n.IsRead → Value.IsRead depth (.number n)
  | text {depth : Nat} (s : String) : Value.IsRead depth (.text s)
  | array {depth : Nat} {vs : List Value} : depth + 1 < depthLimit →
      (∀ v ∈ vs, Value.IsRead (depth + 1) v) → Value.IsRead depth (.array vs)
  | object {depth : Nat} {ms : List (String × Value)} : depth + 1 < depthLimit → IsAscending ms →
      (∀ m ∈ ms, Value.IsRead (depth + 1) m.2) → Value.IsRead depth (.object ms)

mutual

theorem isRead_of_value (depth : Nat) {v : Value} :
    (d : Draft) → d.value depth = .ok v → v.IsRead depth
  | .null, h => by
    cases h
    exact .null
  | .boolean b, h => by
    cases h
    exact .boolean b
  | .numeral m, h => by
    rw [Draft.value] at h
    cases hnumber : m.number with
    | error f => rw [hnumber] at h; cases h
    | ok n =>
      rw [hnumber] at h
      cases h
      exact .number (isRead_of_number hnumber)
  | .string q, h => by
    rw [Draft.value] at h
    cases htext : q.text with
    | error f => rw [htext] at h; cases h
    | ok s =>
      rw [htext] at h
      cases h
      exact .text s
  | .list items ending, h => by
    rw [Draft.value] at h
    obtain ⟨next, hnext, h⟩ := ok_bind_iff.1 h
    obtain ⟨rfl, hdepth⟩ := ok_of_deeper hnext
    obtain ⟨vs, hvs, h⟩ := ok_bind_iff.1 h
    obtain rfl := ok_of_orFault h
    exact .array hdepth (isRead_of_itemValues (depth + 1) items hvs)
  | .object members ending, h => by
    rw [Draft.value] at h
    obtain ⟨next, hnext, h⟩ := ok_bind_iff.1 h
    obtain ⟨rfl, hdepth⟩ := ok_of_deeper hnext
    obtain ⟨ms, hms, h⟩ := ok_bind_iff.1 h
    obtain rfl := ok_of_orFault h
    exact .object hdepth (isAscending_orderMembers ms)
      fun m hm => isRead_of_memberValues (depth + 1) members hms m (mem_orderMembers hm)
  | .gap g, h => by cases h

theorem isRead_of_itemValues (depth : Nat) {vs : List Value} :
    (ds : List Draft) → itemValues depth ds = .ok vs → ∀ v ∈ vs, v.IsRead depth
  | [], h => by
    cases h
    exact List.forall_mem_nil _
  | d :: ds, h => by
    rw [itemValues] at h
    obtain ⟨v, hv, h⟩ := ok_bind_iff.1 h
    obtain ⟨vs', hvs, h⟩ := ok_bind_iff.1 h
    cases h
    exact List.forall_mem_cons.2 ⟨isRead_of_value depth d hv, isRead_of_itemValues depth ds hvs⟩

theorem isRead_of_memberValues (depth : Nat) {ms : List (String × Value)} :
    (members : List (Quoted × Draft)) → memberValues depth members = .ok ms →
      ∀ m ∈ ms, m.2.IsRead depth
  | [], h => by
    cases h
    exact List.forall_mem_nil _
  | (k, d) :: members, h => by
    rw [memberValues] at h
    obtain ⟨key, -, h⟩ := ok_bind_iff.1 h
    obtain ⟨v, hv, h⟩ := ok_bind_iff.1 h
    obtain ⟨ms', hms, h⟩ := ok_bind_iff.1 h
    cases h
    exact List.forall_mem_cons.2
      ⟨isRead_of_value depth d hv, isRead_of_memberValues depth members hms⟩

end

theorem Value.IsRead.isStable {depth : Nat} {v : Value} (h : v.IsRead depth) : v.IsStable depth := by
  induction h with
  | null => exact fun _ => ⟨.null, rfl⟩
  | boolean b => exact fun _ => ⟨.boolean b, rfl⟩
  | number hn => exact isStable_number hn
  | text s =>
    refine fun _ => ⟨.text s, ?_⟩
    rw [Value.draft, Draft.value, text_quoted]
    rfl
  | array hdepth _ ih => exact isStable_array hdepth ih
  | object hdepth hascending _ ih =>
    exact isStable_object hdepth (orderMembers_of_isAscending hascending) ih

/-- Every value that is read is stable. -/
theorem isStable_of_value (depth : Nat) {v : Value} (d : Draft) (h : d.value depth = .ok v) :
    v.IsStable depth :=
  (isRead_of_value depth d h).isStable

end Json
end Walkthrough
