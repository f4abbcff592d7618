import Walkthrough.Text.Lowercase
import Walkthrough.Text.Search

/-!
# Walkthrough.Proofs.Casing

How a search in texts in lower case goes with what the texts are like, their case apart.

The capital sigma alone has a lower case that depends on what stands around it, so a part of a text
may not be found in lower case where it was cut out.

* `foldCase`: the characters of a text on their own in lower case, with one form of the small sigma.
* `map_lower`: lower case is this, up to the form of the small sigma.
* `infix_of_contains_lower`, `contains_lower_of_infix`: what is found in lower case, and what is found
  in any case when no sigma is looked for.
* `contains_lower_of_literal`: a part without a capital sigma is found.
-/

namespace Walkthrough
namespace Text

/-! ## Characters -/

/-- The lower case of a character on its own. -/
def lowerAlone (c : Char) : List Char := lowerAt [] c []

/-- The one form of the small sigma for both. -/
def oneSigma (c : Char) : Char := if c = 'ς' then 'σ' else c

theorem lowerAt_of_ne {c : Char} (h : c ≠ 'Σ') (before after : List Char) :
    lowerAt before c after = lowerAlone c := by
  have hpoint : c.toNat ≠ 0x3A3 := by
    intro heq
    exact h (Char.toNat_inj.1 heq)
  simp [lowerAt, lowerAlone, hpoint]

theorem map_lowerAt (before after : List Char) (c : Char) :
    (lowerAt before c after).map oneSigma = (lowerAlone c).map oneSigma := by
  by_cases h : c = 'Σ'
  · subst h
    by_cases hfinal : isFinal before after <;> simp [lowerAt, lowerAlone, oneSigma, hfinal]
  · rw [lowerAt_of_ne h]

/-- A text without a small sigma in one form has none in the other. -/
theorem map_oneSigma_of_notMem {cs : List Char} (h : 'σ' ∉ cs.map oneSigma) :
    cs.map oneSigma = cs := by
  have hsame : ∀ c ∈ cs, oneSigma c = id c := by
    intro c hc
    have hne : c ≠ 'ς' := by
      rintro rfl
      exact h (List.mem_map_of_mem hc)
    exact if_neg hne
  rw [List.map_congr_left hsame, List.map_id]

/-! ## Texts -/

/-- The characters of a text on their own in lower case, with one form of the small sigma. -/
def foldCase (s : String) : List Char := s.toList.flatMap fun c => (lowerAlone c).map oneSigma

theorem map_lowerFrom (before cs : List Char) :
    (lowerFrom before cs).map oneSigma = cs.flatMap fun c => (lowerAlone c).map oneSigma := by
  induction cs generalizing before with
  | nil => rfl
  | cons c cs ih => rw [lowerFrom, List.map_append, map_lowerAt, ih, List.flatMap_cons]

theorem toList_lower (s : String) : (lower s).toList = lowerFrom [] s.toList :=
  String.toList_ofList

theorem map_lower (s : String) : (lower s).toList.map oneSigma = foldCase s := by
  rw [toList_lower, map_lowerFrom, foldCase]

theorem exists_lowerFrom_append (before as bs : List Char) :
    ∃ front, lowerFrom before (as ++ bs) = front ++ lowerFrom (as.reverse ++ before) bs := by
  induction as generalizing before with
  | nil => exact ⟨[], rfl⟩
  | cons a as ih =>
    obtain ⟨front, hfront⟩ := ih (a :: before)
    refine ⟨lowerAt before a (as ++ bs) ++ front, ?_⟩
    rw [List.cons_append, lowerFrom, hfront, List.append_assoc]
    simp

/-- A part without a capital sigma has the same lower case wherever it stands. -/
theorem lowerFrom_append {as : List Char} (h : 'Σ' ∉ as) (before bs : List Char) :
    lowerFrom before (as ++ bs) =
      as.flatMap lowerAlone ++ lowerFrom (as.reverse ++ before) bs := by
  induction as generalizing before with
  | nil => rfl
  | cons a as ih =>
    obtain ⟨ha, has⟩ := not_or.1 (mt List.mem_cons.2 h)
    rw [List.cons_append, lowerFrom, lowerAt_of_ne (Ne.symm ha), ih has, List.flatMap_cons]
    simp

theorem toList_lower_of_notMem {s : String} (h : 'Σ' ∉ s.toList) :
    (lower s).toList = s.toList.flatMap lowerAlone := by
  have hall := lowerFrom_append h [] []
  rw [List.append_nil] at hall
  rw [toList_lower, hall, lowerFrom, List.append_nil]

/-! ## Searching -/

theorem infix_of_contains_lower {part s : String} (h : contains (lower part) (lower s) = true) :
    foldCase part <:+: foldCase s := by
  obtain ⟨front, back, heq⟩ := contains_iff_infix.1 h
  refine ⟨front.map oneSigma, back.map oneSigma, ?_⟩
  rw [← map_lower, ← map_lower, ← heq, List.map_append, List.map_append]

theorem contains_lower_of_infix {part s : String} (hsigma : 'σ' ∉ foldCase part)
    (h : foldCase part <:+: foldCase s) : contains (lower part) (lower s) = true := by
  obtain ⟨front, back, heq⟩ := h
  rw [← map_lower s] at heq
  obtain ⟨start, rest, hlower, hstart, hback⟩ := List.map_eq_append_iff.1 heq.symm
  obtain ⟨before, found, rfl, hbefore, hfound⟩ := List.map_eq_append_iff.1 hstart
  -- Neither the part nor what is found of it has a sigma, so both are as they are in lower case.
  have hpart : (lower part).toList.map oneSigma = (lower part).toList :=
    map_oneSigma_of_notMem (by rwa [map_lower])
  have hfound' : found.map oneSigma = found := map_oneSigma_of_notMem (by rwa [hfound])
  have hsame : found = (lower part).toList := by
    rw [← hpart, map_lower, ← hfound, hfound']
  exact contains_iff_infix.2 ⟨before, rest, by rw [hlower, hsame]⟩

theorem contains_lower_of_literal {part s : String} (hsigma : 'Σ' ∉ part.toList)
    (h : part.toList <:+: s.toList) : contains (lower part) (lower s) = true := by
  obtain ⟨front, back, heq⟩ := h
  obtain ⟨start, hstart⟩ := exists_lowerFrom_append [] front (part.toList ++ back)
  rw [lowerFrom_append hsigma, ← toList_lower_of_notMem hsigma, ← List.append_assoc, heq,
    ← List.append_assoc] at hstart
  exact contains_iff_infix.2 ⟨start, _, ((toList_lower s).trans hstart).symm⟩

end Text
end Walkthrough
