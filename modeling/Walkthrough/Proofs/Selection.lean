import Mathlib.Data.Int.Order.Basic
import Mathlib.Data.List.Forall2
import Walkthrough.Config.Overrides
import Walkthrough.Proofs.Casing
import Walkthrough.Proofs.Ordering

/-!
# Walkthrough.Proofs.Selection

Which entries a run takes, in which order, and what a filter leaves of them.

* `isSelection_select`: the marked entries by their priorities, those of one priority as they are
  listed.
* `select_map_restrict`: a filter leaves those whose name holds it, in the places they had.
* `isNarrowed_override`: what a filter does to the list, entry by entry.
* `selected_of_override` puts them together and says which names hold a text;
  `dropped_of_final_sigma` is a name that has the text in it and does not hold it.
-/

namespace Walkthrough
namespace Config

open Text

/-! ## The entries of a run -/

/-- A `y` in either case, with blanks around it or none. -/
def Entry.IsMarked (e : Entry) : Prop := trim e.execute = "y" ∨ trim e.execute = "Y"

instance : DecidablePred Entry.IsMarked := fun e =>
  inferInstanceAs (Decidable (trim e.execute = "y" ∨ trim e.execute = "Y"))

theorem toLower_eq_y_iff {c : Char} : c.toLower = 'y' ↔ c = 'y' ∨ c = 'Y' := by
  constructor
  · intro h
    unfold Char.toLower at h
    split at h
    case isTrue hupper =>
      have hval : (c.val + ('a'.val - 'A'.val)).toNat = 'y'.val.toNat :=
        congrArg (UInt32.toNat ∘ Char.val) h
      have hle : c.val.toNat ≤ 'Z'.val.toNat := UInt32.le_iff_toNat_le.1 hupper.2
      refine .inr (Char.ext (UInt32.toNat_inj.1 ?_))
      simp at hval hle ⊢
      omega
    case isFalse => exact .inl h
  · rintro (rfl | rfl) <;> decide

theorem lowerAscii_eq_y_iff {s : String} : lowerAscii s = "y" ↔ s = "y" ∨ s = "Y" := by
  have hchars : "y" = String.ofList ['y'] := rfl
  rw [lowerAscii, ← String.toList_inj, String.toList_ofList, ← String.toList_inj, ← String.toList_inj]
  constructor
  · intro h
    obtain ⟨c, hs, hc⟩ := List.map_eq_singleton_iff.1 h
    rcases toLower_eq_y_iff.1 hc with rfl | rfl
    · exact .inl hs
    · exact .inr hs
  · rintro (h | h) <;> rw [h] <;> rfl

theorem Entry.isSelected_iff {e : Entry} : e.isSelected = true ↔ e.IsMarked := by
  rw [isSelected, decide_eq_true_eq, lowerAscii_eq_y_iff, IsMarked]

/-- The marked entries, each as often as it is listed, the lowest priority first, and those of one
priority as they are listed. -/
structure IsSelection (entries chosen : List Entry) : Prop where
  listed : chosen.Perm (entries.filter Entry.IsMarked)
  ordered : chosen.Pairwise fun a b => a.priority ≤ b.priority
  ties : ∀ p, chosen.filter (·.priority = p) = entries.filter fun e => e.IsMarked ∧ e.priority = p

theorem isOrderedBy_select (entries : List Entry) :
    IsOrderedBy Entry.priority (entries.filter Entry.isSelected) (select entries) :=
  isOrderedBy_mergeSort Entry.priority _

theorem isSelection_select (entries : List Entry) : IsSelection entries (select entries) := by
  have hmarked : entries.filter Entry.isSelected = entries.filter Entry.IsMarked := by
    refine List.filter_congr fun e _ => ?_
    rw [Bool.eq_iff_iff, Entry.isSelected_iff, decide_eq_true_eq]
  have horder := isOrderedBy_select entries
  rw [hmarked] at horder
  refine ⟨?listed, horder.ordered, fun p => ?ties⟩
  case listed =>
    rw [← hmarked]
    exact List.mergeSort_perm _ _
  case ties =>
    rw [horder.ties, List.filter_filter]
    refine List.filter_congr fun e _ => ?_
    rw [Bool.decide_and, Bool.and_comm]

/-! ## Filters -/

theorem Entry.restrict_of_nameHolds {text : String} {e : Entry} (h : e.nameHolds text = true) :
    e.restrict (some text) = e :=
  if_pos h

theorem filter_map_restrict (text : String) (entries : List Entry) :
    (entries.map (Entry.restrict (some text))).filter Entry.isSelected =
      (entries.filter Entry.isSelected).filter (Entry.nameHolds text) := by
  have hkept : Entry.isSelected ∘ Entry.restrict (some text) =
      fun e => e.nameHolds text && e.isSelected := by
    funext e
    rw [Function.comp_apply, Entry.isSelected_restrict, Option.all_some, Bool.and_comm]
  rw [List.filter_map, hkept, List.filter_filter]
  conv_rhs => rw [← List.map_id (List.filter _ entries)]
  refine List.map_congr_left fun e he => ?_
  exact Entry.restrict_of_nameHolds (Bool.and_eq_true_iff.1 (List.mem_filter.1 he).2).1

/-- Taking marks off and selecting is selecting and leaving out. -/
theorem select_map_restrict (text : String) (entries : List Entry) :
    select (entries.map (Entry.restrict (some text))) =
      (select entries).filter (Entry.nameHolds text) := by
  refine IsOrderedBy.unique (isOrderedBy_select _) ?_
  rw [filter_map_restrict]
  exact (isOrderedBy_select entries).filter _

/-- What a filter may do to an entry: take its mark off if its name does not hold the text. -/
structure IsNarrowed (text : String) (e e' : Entry) : Prop where
  rest : { e' with execute := e.execute } = e
  marked : e'.isSelected = true ↔ e.isSelected = true ∧ e.nameHolds text = true

theorem isNarrowed_restrict (text : String) (e : Entry) :
    IsNarrowed text e (e.restrict (some text)) := by
  constructor
  · by_cases h : e.nameHolds text = true
    · rw [Entry.restrict_of_nameHolds h]
    · simp [Entry.restrict, h]
  · rw [Entry.isSelected_restrict, Option.all_some, Bool.and_eq_true]

theorem isNarrowed_override (plan : Plan) (o : Overrides) (text : String) :
    List.Forall₂ (IsNarrowed text) plan.master.scenarios
      (plan.override { o with filter := some text }).master.scenarios := by
  rw [(plan.isOverridden_override { o with filter := some text }).scenarios,
    List.forall₂_map_right_iff, List.forall₂_same]
  exact fun e _ => isNarrowed_restrict text e

/-- A run takes the marked entries in the order of their priorities. With a filter it takes those of
them whose name holds the text, in that order, and nothing of an entry changes but its mark. A name
that holds the text has it in it, the case apart. The converse holds for every text without a sigma,
and a name with the very text in it holds it if there is no capital sigma in the text. -/
theorem selected_of_override (plan : Plan) (o : Overrides) (text : String) :
    IsSelection plan.master.scenarios plan.selected ∧
      (plan.override { o with filter := some text }).selected =
        plan.selected.filter (Entry.nameHolds text) ∧
      List.Forall₂ (IsNarrowed text) plan.master.scenarios
        (plan.override { o with filter := some text }).master.scenarios ∧
      ∀ e : Entry,
        (e.nameHolds text = true → foldCase text <:+: foldCase e.name) ∧
        ('σ' ∉ foldCase text → foldCase text <:+: foldCase e.name → e.nameHolds text = true) ∧
        ('Σ' ∉ text.toList → text.toList <:+: e.name.toList → e.nameHolds text = true) := by
  refine ⟨isSelection_select _, select_map_restrict text _, isNarrowed_override plan o text, ?_⟩
  intro e
  exact ⟨infix_of_contains_lower, contains_lower_of_infix, contains_lower_of_literal⟩

/-- The name has the text in it, but ends in the other small sigma in lower case. -/
theorem dropped_of_final_sigma :
    let e : Entry := ⟨"ΑΣ", "s.json", "", "y", 999⟩
    let plan : Plan := ⟨{ (default : Master) with scenarios := [e] }, default⟩
    "Σ".toList <:+: e.name.toList ∧ plan.selected = [e] ∧
      (plan.override ⟨none, false, some "Σ"⟩).selected = [] := by
  refine ⟨⟨['Α'], [], ?_⟩, ?_, ?_⟩ <;> decide +kernel

end Config
end Walkthrough
