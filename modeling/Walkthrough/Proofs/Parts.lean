import Walkthrough.Text.Search

/-!
# Walkthrough.Proofs.Parts

Texts cut at every occurrence of a character, and documents cut into their lines.

* `splitAll_eq_splitOn`: a text is cut as the list of its characters is.
* `splitAll_append_cons`: what stands in front of the character is cut on its own, and so is what
  stands behind it.
* `linesOf_append`: a document that ends in a break has its lines in front of those of the next.
-/

namespace Walkthrough
namespace Text

theorem splitAll_eq_splitOn (sep : Char) (cs : List Char) : splitAll sep cs = cs.splitOn sep := by
  induction cs with
  | nil => rfl
  | cons c cs ih =>
    rw [splitAll, List.splitOn_cons_eq_if_modifyHead, ih]
    by_cases h : c = sep
    · simp [h]
    · cases hparts : cs.splitOn sep with
      | nil => exact absurd hparts (List.splitOn_ne_nil sep cs)
      | cons part parts => simp [h]

theorem splitAll_ne_nil (sep : Char) (cs : List Char) : splitAll sep cs ≠ [] := by
  rw [splitAll_eq_splitOn]
  exact List.splitOn_ne_nil sep cs

theorem splitAll_of_notMem {sep : Char} {cs : List Char} (h : sep ∉ cs) :
    splitAll sep cs = [cs] := by
  rw [splitAll_eq_splitOn, List.splitOn_eq_singleton h]

theorem splitAll_append_cons (sep : Char) (xs ys : List Char) :
    splitAll sep (xs ++ sep :: ys) = splitAll sep xs ++ splitAll sep ys := by
  simp only [splitAll_eq_splitOn, List.splitOn_append_cons_self]

/-- Nothing is lost but the places of the cuts, which are between the parts. -/
theorem intercalate_splitAll (sep : Char) (cs : List Char) :
    List.intercalate [sep] (splitAll sep cs) = cs := by
  rw [splitAll_eq_splitOn, List.intercalate_splitOn]

/-- Texts with the character between them are cut one by one. -/
theorem splitAll_intercalate (sep : Char) {parts : List (List Char)} (h : parts ≠ []) :
    splitAll sep (List.intercalate [sep] parts) = parts.flatMap (splitAll sep) := by
  induction parts with
  | nil => exact absurd rfl h
  | cons part parts ih =>
    cases parts with
    | nil => simp
    | cons next parts =>
      rw [List.intercalate_cons_cons, List.append_assoc, List.singleton_append,
        splitAll_append_cons, ih (List.cons_ne_nil _ _)]
      exact List.flatMap_cons.symm

/-- The character in front of each of some parts. -/
theorem cons_intercalate (sep : Char) {parts : List (List Char)} (h : parts ≠ []) :
    sep :: List.intercalate [sep] parts = parts.flatMap (sep :: ·) := by
  induction parts with
  | nil => exact absurd rfl h
  | cons part parts ih =>
    cases parts with
    | nil => simp
    | cons next parts =>
      rw [List.intercalate_cons_cons, List.flatMap_cons, ← ih (List.cons_ne_nil _ _)]
      simp

/-- The first part, and the character in front of each of the others. -/
theorem intercalate_cons (sep : Char) (part : List Char) (parts : List (List Char)) :
    List.intercalate [sep] (part :: parts) = part ++ parts.flatMap (sep :: ·) := by
  have hcons := cons_intercalate sep (List.cons_ne_nil part parts)
  rw [List.flatMap_cons, List.cons_append] at hcons
  exact (List.cons.inj hcons).2

/-- An empty part at the end means that the text is empty or ends in the character. -/
theorem eq_nil_or_getLast?_of_splitAll {sep : Char} {cs : List Char}
    (h : (splitAll sep cs).getLast? = some []) : cs = [] ∨ cs.getLast? = some sep := by
  obtain ⟨parts, hparts⟩ := List.getLast?_eq_some_iff.1 h
  have hcs : sep :: cs = parts.flatMap (sep :: ·) ++ [sep] := by
    have hcut := cons_intercalate sep (splitAll_ne_nil sep cs)
    rw [intercalate_splitAll, hparts] at hcut
    simpa using hcut
  cases cs with
  | nil => exact .inl rfl
  | cons c cs => exact .inr (by simpa using congrArg List.getLast? hcs)

theorem intercalate_ne_nil {sep : Char} {parts : List (List Char)} (h : parts ≠ [])
    (hparts : ∀ p ∈ parts, p ≠ []) : List.intercalate [sep] parts ≠ [] := by
  obtain ⟨part, parts, rfl⟩ := List.exists_cons_of_ne_nil h
  have hpart := (List.forall_mem_cons.1 hparts).1
  cases parts with
  | nil => simpa using hpart
  | cons next parts => simp [hpart]

theorem intercalate_flatMap_splitAll (sep : Char) (parts : List (List Char)) :
    List.intercalate [sep] (parts.flatMap (splitAll sep)) = List.intercalate [sep] parts := by
  by_cases h : parts = []
  · rw [h, List.flatMap_nil]
  · rw [← splitAll_intercalate sep h, intercalate_splitAll]

/-- With the character between them, parts are told apart once they are cut at it. -/
theorem intercalate_eq_iff {sep : Char} {parts parts' : List (List Char)}
    (hparts : ∀ p ∈ parts, p ≠ []) (hparts' : ∀ p ∈ parts', p ≠ []) :
    List.intercalate [sep] parts = List.intercalate [sep] parts' ↔
      parts.flatMap (splitAll sep) = parts'.flatMap (splitAll sep) := by
  constructor
  · intro h
    by_cases hnil : parts = []
    · cases parts' with
      | nil => rw [hnil]
      | cons part parts' =>
        rw [hnil, List.intercalate_nil] at h
        exact absurd h.symm (intercalate_ne_nil (List.cons_ne_nil _ _) hparts')
    · have hne : parts' ≠ [] := by
        rintro rfl
        exact intercalate_ne_nil hnil hparts h
      rw [← splitAll_intercalate sep hnil, ← splitAll_intercalate sep hne, h]
  · intro h
    rw [← intercalate_flatMap_splitAll, h, intercalate_flatMap_splitAll]

/-! ## Lines -/

/-- The lines of a document, each of which ends in a break. -/
def linesOf (s : String) : List String := (splitAll '\n' s.toList).dropLast.map String.ofList

/-- Nothing stands behind the last break. -/
def IsEnded (s : String) : Prop := s.toList = [] ∨ ∃ init, s.toList = init ++ ['\n']

theorem isEnded_empty : IsEnded "" := .inl rfl

theorem isEnded_break (s : String) : IsEnded (s ++ "\n") := .inr ⟨s.toList, String.toList_append⟩

theorem IsEnded.append {s t : String} (hs : IsEnded s) (ht : IsEnded t) : IsEnded (s ++ t) := by
  rcases ht with ht | ⟨init, ht⟩
  · rwa [IsEnded, String.toList_append, ht, List.append_nil]
  · exact .inr ⟨s.toList ++ init, by rw [String.toList_append, ht, List.append_assoc]⟩

theorem isEnded_join {ss : List String} (h : ∀ s ∈ ss, IsEnded s) : IsEnded (String.join ss) := by
  induction ss with
  | nil => exact isEnded_empty
  | cons s ss ih =>
    obtain ⟨hs, hss⟩ := List.forall_mem_cons.1 h
    rw [String.join_cons]
    exact hs.append (ih hss)

theorem linesOf_break {s : String} (h : '\n' ∉ s.toList) : linesOf (s ++ "\n") = [s] := by
  have hcut : splitAll '\n' (s ++ "\n").toList = splitAll '\n' s.toList ++ [[]] := by
    rw [String.toList_append]
    exact splitAll_append_cons '\n' s.toList []
  rw [linesOf, hcut, List.dropLast_concat, splitAll_of_notMem h, List.map_singleton,
    String.ofList_toList]

theorem linesOf_append {s : String} (hs : IsEnded s) (t : String) :
    linesOf (s ++ t) = linesOf s ++ linesOf t := by
  rcases hs with hs | ⟨init, hs⟩
  · simp [linesOf, hs, splitAll]
  · have hinit : splitAll '\n' (init ++ ['\n']) = splitAll '\n' init ++ [[]] :=
      splitAll_append_cons '\n' init []
    rw [linesOf, linesOf, linesOf, String.toList_append, hs, hinit, List.dropLast_concat,
      List.append_assoc, List.singleton_append, splitAll_append_cons,
      List.dropLast_append_of_ne_nil (splitAll_ne_nil _ _), List.map_append]

theorem linesOf_join {ss : List String} (h : ∀ s ∈ ss, IsEnded s) :
    linesOf (String.join ss) = ss.flatMap linesOf := by
  induction ss with
  | nil => rfl
  | cons s ss ih =>
    obtain ⟨hs, hss⟩ := List.forall_mem_cons.1 h
    rw [String.join_cons, linesOf_append hs, ih hss, List.flatMap_cons]

end Text
end Walkthrough
