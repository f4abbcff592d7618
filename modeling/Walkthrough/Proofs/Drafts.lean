import Walkthrough.Json.Draft
import Walkthrough.Proofs.Tokens

/-!
# Walkthrough.Proofs.Drafts

The draft of the text of a value is the draft of the value, complete and with nothing behind it.

* `foldl_tokens`: where a value is expected, the tokens of a value give its draft.
* `readWith_pretty`: what a reader makes of the text of a value is what it makes of its draft.
-/

namespace Walkthrough
namespace Json

mutual

/-- The draft of a value. -/
def Value.draft : Value → Draft
  | .null => .null
  | .boolean b => .boolean b
  | .number n => .numeral n.numeral
  | .text s => .string (quoted s)
  | .array vs => .list (itemDrafts vs) .closed
  | .object ms => .object (memberDrafts ms) .closed

def itemDrafts : List Value → List Draft
  | [] => []
  | v :: vs => v.draft :: itemDrafts vs

def memberDrafts : List (String × Value) → List (Quoted × Draft)
  | [] => []
  | (k, v) :: ms => (quoted k, v.draft) :: memberDrafts ms

end

theorem itemDrafts_eq (vs : List Value) : itemDrafts vs = vs.map Value.draft := by
  induction vs with
  | nil => rfl
  | cons v vs ih => rw [itemDrafts, ih, List.map_cons]

theorem memberDrafts_eq (ms : List (String × Value)) :
    memberDrafts ms = ms.map fun m => (quoted m.1, m.2.draft) := by
  induction ms with
  | nil => rfl
  | cons m ms ih =>
    obtain ⟨k, v⟩ := m
    rw [memberDrafts, ih, List.map_cons]

/-- Where a value is expected, the tokens of a value give its draft. -/
def GivesDraft (v : Value) : Prop :=
  ∀ frames, v.tokens.foldl Place.step (.value frames) = complete v.draft frames

/-- The tokens of a value go on in the same way at the front of a list. -/
theorem foldl_firstItem {v : Value} (h : GivesDraft v) (frames : List Frame) :
    v.tokens.foldl Place.step (.firstItem frames) = .afterItem [v.draft] frames := by
  have hsame : v.tokens.foldl Place.step (.firstItem frames) =
      v.tokens.foldl Place.step (.value (.item [] :: frames)) := by
    match v with
    | .null | .boolean _ | .number _ | .text _ => rfl
    | .array [] | .array (_ :: _) => rfl
    | .object [] | .object ((_, _) :: _) => rfl
  rw [hsame, h]
  rfl

theorem foldl_itemTokens {vs : List Value} (hvs : ∀ v ∈ vs, GivesDraft v) (items : List Draft)
    (frames : List Frame) : (itemTokens vs).foldl Place.step (.afterItem items frames) =
      complete (.list (items.reverse ++ itemDrafts vs) .closed) frames := by
  induction vs generalizing items with
  | nil => simp [itemTokens, itemDrafts, Place.step]
  | cons v vs ih =>
    obtain ⟨hv, hvs⟩ := List.forall_mem_cons.1 hvs
    have hstep : Place.step (.afterItem items frames) .comma = .value (.item items :: frames) := rfl
    rw [itemTokens, List.foldl_cons, List.foldl_append, hstep, hv, complete, ih hvs, itemDrafts,
      List.reverse_cons, List.append_assoc, List.singleton_append]

theorem foldl_memberTokens {ms : List (String × Value)} (hms : ∀ m ∈ ms, GivesDraft m.2)
    (members : List (Quoted × Draft)) (frames : List Frame) :
    (memberTokens ms).foldl Place.step (.afterMember members frames) =
      complete (.object (members.reverse ++ memberDrafts ms) .closed) frames := by
  induction ms generalizing members with
  | nil => simp [memberTokens, memberDrafts, Place.step]
  | cons m ms ih =>
    obtain ⟨k, v⟩ := m
    obtain ⟨hv, hms⟩ := List.forall_mem_cons.1 hms
    have hstep : [.comma, .string (quoted k), .colon].foldl Place.step (.afterMember members frames) =
        .value (.member members (quoted k) :: frames) := rfl
    rw [memberTokens]
    change (v.tokens ++ memberTokens ms).foldl Place.step
      ([.comma, .string (quoted k), .colon].foldl Place.step (.afterMember members frames)) = _
    rw [hstep, List.foldl_append, hv, complete, ih hms, memberDrafts, List.reverse_cons,
      List.append_assoc, List.singleton_append]

theorem foldl_tokens (v : Value) : GivesDraft v := by
  induction v using Value.induct with
  | null => exact fun _ => rfl
  | boolean b => exact fun _ => rfl
  | number n => exact fun _ => rfl
  | text s => exact fun _ => rfl
  | array vs ih =>
    intro frames
    cases vs with
    | nil => rfl
    | cons v vs =>
      obtain ⟨hv, hvs⟩ := List.forall_mem_cons.1 ih
      have hstep : Place.step (.value frames) .openList = .firstItem frames := rfl
      rw [Value.tokens, List.foldl_cons, List.foldl_append, hstep, foldl_firstItem hv,
        foldl_itemTokens hvs]
      rfl
  | object ms ih =>
    intro frames
    cases ms with
    | nil => rfl
    | cons m ms =>
      obtain ⟨k, v⟩ := m
      obtain ⟨hv, hms⟩ := List.forall_mem_cons.1 ih
      rw [Value.tokens]
      change (v.tokens ++ memberTokens ms).foldl Place.step
        (.value (.member [] (quoted k) :: frames)) = _
      rw [List.foldl_append, hv, complete, foldl_memberTokens hms]
      rfl

/-- What a reader makes of the text of a value is what it makes of its draft. -/
theorem readWith_pretty {α : Type} (reader : Draft → Except Fault α) {v : Value}
    (h : v.IsFinite) : readWith reader (pretty v) = reader v.draft := by
  have hdraft : draft (pretty v) = (v.draft, false) := by
    rw [draft, scan_pretty h, ofTokens, foldl_tokens v []]
    rfl
  simp only [readWith, hdraft]
  cases reader v.draft <;> rfl

end Json
end Walkthrough
