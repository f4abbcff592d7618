import Mathlib.Data.List.DropRight
import Walkthrough.Text.Blank

/-!
# Walkthrough.Proofs.Trimming

What is left of a text when blanks are taken off both its ends.

* `IsTrimmed`: a text that neither starts nor ends with a blank; only such texts are left
  (`isTrimmed_trimChars`), and they are left alone (`trimChars_of_isTrimmed`).
* `trimChars_eq_iff`, `trim_eq_iff`: a text is cut into blanks, what is left, and blanks, and no
  other trimmed part of it has blanks only on both sides.
-/

namespace Walkthrough
namespace Text

/-- Neither the first nor the last character is blank. -/
def IsTrimmed (cs : List Char) : Prop :=
  (∀ c ∈ cs.head?, isBlank c = false) ∧ ∀ c ∈ cs.getLast?, isBlank c = false

theorem isTrimmed_of_forall {cs : List Char} (h : ∀ c ∈ cs, isBlank c = false) : IsTrimmed cs :=
  ⟨fun c hc => h c (List.mem_of_mem_head? hc), fun c hc => h c (List.mem_of_getLast? hc)⟩

theorem trimEnd_eq (cs : List Char) : trimEnd cs = cs.rdropWhile isBlank := rfl

theorem trimChars_of_isTrimmed {cs : List Char} (h : IsTrimmed cs) : trimChars cs = cs := by
  have hstart : trimStart cs = cs := by
    cases cs with
    | nil => rfl
    | cons c rest => exact trimStart_of_head (h.1 c rfl)
  rw [trimChars, hstart, trimEnd_eq, List.rdropWhile_eq_self_iff]
  intro hne
  simp [h.2 _ (List.getLast?_eq_some_getLast hne)]

theorem isTrimmed_trimChars (cs : List Char) : IsTrimmed (trimChars cs) := by
  constructor
  · intro c hc
    -- What is taken off the end leaves the first character where it is.
    obtain ⟨rest, hrest⟩ : trimChars cs <+: trimStart cs := List.rdropWhile_prefix isBlank _
    have hhead : c ∈ (trimStart cs).head? := by
      rw [← hrest, List.head?_append, hc]
      rfl
    have hdrop := List.head?_dropWhile_not isBlank cs
    rw [show cs.dropWhile isBlank = trimStart cs from rfl, hhead] at hdrop
    simpa using hdrop
  · intro c hc
    obtain ⟨hne, rfl⟩ := List.mem_getLast?_eq_getLast hc
    exact Bool.eq_false_iff.2 (List.rdropWhile_last_not isBlank (trimStart cs) hne)

theorem mem_trimChars {cs : List Char} {c : Char} (hc : c ∈ cs) (hblank : isBlank c = false) :
    c ∈ trimChars cs := by
  have hdrop {ds : List Char} (hds : c ∈ ds) : c ∈ ds.dropWhile isBlank := by
    rw [← List.takeWhile_append_dropWhile (p := isBlank) (l := ds), List.mem_append] at hds
    rcases hds with htaken | hdropped
    · cases hblank.symm.trans (List.mem_takeWhile_imp htaken)
    · exact hdropped
  exact List.mem_reverse.2 (hdrop (List.mem_reverse.2 (hdrop hc)))

theorem trim_of_isTrimmed {s : String} (h : IsTrimmed s.toList) : trim s = s := by
  rw [trim, trimChars_of_isTrimmed h, String.ofList_toList]

theorem toList_trim (s : String) : (trim s).toList = trimChars s.toList := String.toList_ofList

/-! ## What is taken off -/

theorem trimStart_append {before : List Char} (h : ∀ c ∈ before, isBlank c = true)
    (cs : List Char) : trimStart (before ++ cs) = trimStart cs :=
  List.dropWhile_append_of_pos h

theorem trimEnd_append {after : List Char} (h : ∀ c ∈ after, isBlank c = true) (cs : List Char) :
    trimEnd (cs ++ after) = trimEnd cs := by
  have hreverse : ∀ c ∈ after.reverse, isBlank c = true := fun c hc => h c (List.mem_reverse.1 hc)
  rw [trimEnd, trimEnd, List.reverse_append, List.dropWhile_append_of_pos hreverse]

/-- Blanks on both sides do not count. -/
theorem trimChars_append {before after : List Char} (hbefore : ∀ c ∈ before, isBlank c = true)
    (hafter : ∀ c ∈ after, isBlank c = true) {cs : List Char} (h : IsTrimmed cs) :
    trimChars (before ++ cs ++ after) = cs := by
  rw [trimChars, List.append_assoc, trimStart_append hbefore]
  cases cs with
  | nil =>
    have hnone := trimStart_append hafter []
    rw [List.append_nil] at hnone
    rw [List.nil_append, hnone]
    rfl
  | cons c cs =>
    rw [List.cons_append, trimStart_of_head (h.1 c rfl), ← List.cons_append, trimEnd_append hafter]
    have htrimmed := trimChars_of_isTrimmed h
    rwa [trimChars, trimStart_of_head (h.1 c rfl)] at htrimmed

theorem trimChars_eq_iff {cs trimmed : List Char} :
    trimChars cs = trimmed ↔ IsTrimmed trimmed ∧ ∃ before after,
      cs = before ++ trimmed ++ after ∧ (∀ c ∈ before, isBlank c = true) ∧
        ∀ c ∈ after, isBlank c = true := by
  constructor
  · rintro rfl
    refine ⟨isTrimmed_trimChars cs, cs.takeWhile isBlank, (trimStart cs).rtakeWhile isBlank, ?_,
      fun _ => List.mem_takeWhile_imp, fun _ => List.mem_rtakeWhile_imp⟩
    rw [trimChars, trimEnd_eq, List.append_assoc, List.rdropWhile_append_rtakeWhile]
    exact List.takeWhile_append_dropWhile.symm
  · rintro ⟨htrimmed, before, after, rfl, hbefore, hafter⟩
    exact trimChars_append hbefore hafter htrimmed

theorem trim_eq_iff {s trimmed : String} :
    trim s = trimmed ↔ IsTrimmed trimmed.toList ∧ ∃ before after,
      s.toList = before ++ trimmed.toList ++ after ∧ (∀ c ∈ before, isBlank c = true) ∧
        ∀ c ∈ after, isBlank c = true := by
  rw [← String.toList_inj, toList_trim, trimChars_eq_iff]

end Text
end Walkthrough
