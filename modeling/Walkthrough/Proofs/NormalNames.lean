import Mathlib.Data.List.DropRight
import Walkthrough.Proofs.Containment

/-!
# Walkthrough.Proofs.NormalNames

What is left of a name, and what is left of that.

The kept characters of a name stand in runs. The runs, with an underscore between them, begin and
end in a kept character, and what is left of the name is the first fifty characters of that. The
cut comes last and looks at nothing, so it may leave an underscore at the end.

* `limited_eq`: what is left of a name are its runs, cut after fifty characters.
* `sanitize_eq_self_iff`: the names that stay as they are.
* `getLast?_sanitize_iff`: an underscore is left at the end when the cut falls behind one.
* `normal_of_sanitize` puts them together.
-/

namespace Walkthrough
namespace Capture

open Text

/-! ## The runs of a name -/

/-- A name cut at every character that is not kept. -/
def keptParts (cs : List Char) : List (List Char) := cs.splitOnP (!isKept ·)

/-- The runs of kept characters in a name. -/
def keptRuns (cs : List Char) : List (List Char) := (keptParts cs).filter (· ≠ [])

/-- The runs of a name with an underscore between them. -/
def joined (cs : List Char) : List Char := List.intercalate ['_'] (keptRuns cs)

section Runs

variable {c : Char} {cs part : List Char} {parts : List (List Char)}

theorem keptParts_cons_of_isKept (hkept : isKept c = true) (hcut : keptParts cs = part :: parts) :
    keptParts (c :: cs) = (c :: part) :: parts := by
  rw [keptParts] at hcut
  simp [keptParts, List.splitOnP_cons_eq_if_modifyHead, hkept, hcut]

theorem keptParts_cons_of_not_isKept (hkept : ¬isKept c = true) :
    keptParts (c :: cs) = [] :: keptParts cs := by
  simp [keptParts, List.splitOnP_cons_eq_if_modifyHead, hkept]

theorem keptRuns_cons_of_not_isKept (hkept : ¬isKept c = true) :
    keptRuns (c :: cs) = keptRuns cs := by
  rw [keptRuns, keptParts_cons_of_not_isKept hkept]
  rfl

theorem joined_eq_nil_iff : joined cs = [] ↔ keptRuns cs = [] := by
  constructor
  · intro h
    by_contra hruns
    exact intercalate_ne_nil hruns (fun run hrun => by simpa using (List.mem_filter.1 hrun).2) h
  · intro h
    rw [joined, h, List.intercalate_nil]

theorem flatMap_keptRuns (cs : List Char) :
    (keptRuns cs).flatMap ('_' :: ·) = if joined cs = [] then [] else '_' :: joined cs := by
  split
  · next hnone => rw [joined_eq_nil_iff.1 hnone, List.flatMap_nil]
  · next hsome => exact (cons_intercalate '_' (mt joined_eq_nil_iff.2 hsome)).symm

end Runs

/-! ## What is left before the cut -/

/-- A text without the underscores at its end. -/
def trimmed (cs : List Char) : List Char := dropEndWhile (· = '_') cs

theorem trimmed_eq (cs : List Char) : trimmed cs = cs.rdropWhile (· = '_') := rfl

theorem trimmed_cons (c : Char) (cs : List Char) :
    trimmed (c :: cs) = if c = '_' ∧ trimmed cs = [] then [] else c :: trimmed cs := by
  simp only [trimmed_eq, List.rdropWhile, List.reverse_cons, List.dropWhile_append]
  by_cases hc : c = '_' <;> by_cases hcs : List.dropWhile (· = '_') cs.reverse = [] <;>
    simp [hc, hcs]

/-- Behind an underscore the collapse gives the runs. Within a run its first part goes on with the
run, and the other runs follow. -/
theorem trimmed_collapse (cs : List Char) :
    trimmed (collapse true cs) = joined cs ∧
      ∃ part parts, keptParts cs = part :: parts ∧
        trimmed (collapse false cs) = part ++ (parts.filter (· ≠ [])).flatMap ('_' :: ·) := by
  induction cs with
  | nil => exact ⟨rfl, [], [], rfl, rfl⟩
  | cons c cs ih =>
    obtain ⟨hbehind, part, parts, hcut, hwithin⟩ := ih
    by_cases hkept : isKept c = true
    · have hcut' := keptParts_cons_of_isKept hkept hcut
      have hcollapse (ended : Bool) : trimmed (collapse ended (c :: cs)) =
          (c :: part) ++ (parts.filter (· ≠ [])).flatMap ('_' :: ·) := by
        have hc : ¬(c = '_' ∧ trimmed (collapse false cs) = []) :=
          fun h => ne_underscore_of_isKept hkept h.1
        rw [collapse, if_pos hkept, trimmed_cons, if_neg hc, hwithin, List.cons_append]
      refine ⟨?_, _, _, hcut', hcollapse false⟩
      rw [hcollapse, joined, keptRuns, hcut', List.filter_cons_of_pos (by simp), intercalate_cons]
    · refine ⟨?_, _, _, keptParts_cons_of_not_isKept hkept, ?_⟩
      · rw [collapse, if_neg hkept, if_pos rfl, hbehind, joined, joined,
          keptRuns_cons_of_not_isKept hkept]
      · rw [collapse, if_neg hkept, if_neg Bool.false_ne_true, trimmed_cons, hbehind,
          List.nil_append, ← keptRuns, flatMap_keptRuns]
        simp only [true_and]

/-- The collapse begins with at most one underscore. -/
theorem dropWhile_collapse (cs : List Char) :
    (collapse false cs).dropWhile (· = '_') = collapse true cs := by
  cases cs with
  | nil => rfl
  | cons c cs =>
    by_cases hkept : isKept c = true
    · simp [collapse, hkept, ne_underscore_of_isKept hkept]
    · have hhead := head?_collapse_true cs
      cases hcs : collapse true cs with
      | nil => simp [collapse, hkept, hcs]
      | cons d ds =>
        rw [hcs, List.head?_cons, ne_eq, Option.some.injEq] at hhead
        simp [collapse, hkept, hcs, hhead]

/-- What is left of a name are its runs, cut after fifty characters. -/
theorem limited_eq (cs : List Char) : limited cs = (joined cs).take nameLimit := by
  have hstripped : limited cs =
      (trimmed ((collapse false cs).dropWhile (· = '_'))).take nameLimit := rfl
  rw [hstripped, dropWhile_collapse, (trimmed_collapse cs).1]

theorem sanitizeChars_eq_joined (cs : List Char) : sanitizeChars cs =
    if joined cs = [] then "scenario".toList else (joined cs).take nameLimit := by
  rw [sanitizeChars_eq, limited_eq]
  cases joined cs <;> rfl

/-! ## The end of a name -/

theorem getLast?_trimmed (cs : List Char) : (trimmed cs).getLast? ≠ some '_' := by
  rw [trimmed_eq]
  intro h
  have hne : cs.rdropWhile (· = '_') ≠ [] := by
    intro hnil
    simp [hnil] at h
  rw [List.getLast?_eq_some_getLast hne, Option.some.injEq] at h
  have hlast := List.rdropWhile_last_not (· = '_') cs hne
  simp [h] at hlast

/-- A text that ends in no underscore keeps its end, and no other text does. -/
theorem trimmed_eq_self_iff {cs : List Char} : trimmed cs = cs ↔ cs.getLast? ≠ some '_' := by
  constructor
  · intro h
    rw [← h]
    exact getLast?_trimmed cs
  · intro h
    rw [trimmed_eq, List.rdropWhile_eq_self_iff]
    intro hne hlast
    rw [List.getLast?_eq_some_getLast hne, of_decide_eq_true hlast] at h
    exact h rfl

theorem trimmed_ne_nil {cs : List Char} (hne : cs ≠ []) (hhead : cs.head? ≠ some '_') :
    trimmed cs ≠ [] := by
  obtain ⟨c, cs, rfl⟩ := List.exists_cons_of_ne_nil hne
  have hc : c ≠ '_' := by simpa using hhead
  rw [trimmed_cons, if_neg fun h => hc h.1]
  exact List.cons_ne_nil _ _

/-- The runs end in a kept character, so an underscore at the end is one that was cut behind. -/
theorem getLast?_sanitize_iff (name : String) :
    (sanitize name).toList.getLast? = some '_' ↔
      (joined name.toList)[nameLimit - 1]? = some '_' := by
  have hend : (joined name.toList).getLast? ≠ some '_' := by
    rw [← (trimmed_collapse name.toList).1]
    exact getLast?_trimmed _
  rw [sanitize, String.toList_ofList, sanitizeChars_eq_joined]
  split
  · next hnone => simp [hnone]
  · rw [List.getLast?_take, if_neg (by decide), Option.or_eq_some_iff]
    simp [hend]

/-! ## Names that stay as they are -/

/-- A text in which underscores stand alone is its own collapse. -/
theorem collapse_of_isChain {cs : List Char} (ended : Bool)
    (hsafe : ∀ c ∈ cs, isKept c = true ∨ c = '_') (hchain : cs.IsChain Apart)
    (hhead : ended = true → cs.head? ≠ some '_') : collapse ended cs = cs := by
  induction cs generalizing ended with
  | nil => rfl
  | cons c cs ih =>
    obtain ⟨hc, hrest⟩ := List.forall_mem_cons.1 hsafe
    obtain ⟨hnext, hbehind⟩ := List.isChain_cons.1 hchain
    rcases hc with hkept | rfl
    · rw [collapse, if_pos hkept, ih false hrest hbehind fun h => absurd h Bool.false_ne_true]
    · have hfirst : ended = false := by simpa using hhead
      have hapart : cs.head? ≠ some '_' := fun h => hnext '_' h rfl rfl
      rw [collapse, if_neg (by decide), hfirst, if_neg Bool.false_ne_true,
        ih true hrest hbehind fun _ => hapart]

/-- What is left of a tidy text is all of it but an underscore at its end. -/
theorem sanitize_of_isTidy {name : String} (htidy : IsTidy name) (hsafe : IsSafe name) :
    sanitize name = String.ofList (trimmed name.toList) := by
  have hjoined : joined name.toList = trimmed name.toList := by
    rw [← (trimmed_collapse name.toList).1,
      collapse_of_isChain true hsafe htidy.apart fun _ => htidy.head_ne]
  have hlength : (trimmed name.toList).length ≤ nameLimit := by
    refine Nat.le_trans (List.rdropWhile_prefix _ _).length_le ?_
    exact String.length_toList ▸ htidy.length_le
  have hsome : trimmed name.toList ≠ [] :=
    trimmed_ne_nil (by simpa using htidy.ne_empty) htidy.head_ne
  rw [sanitize, sanitizeChars_eq_joined, hjoined, if_neg hsome, List.take_of_length_le hlength]

/-- What is left of a name when nothing more is to be taken off it. -/
structure IsNormal (name : String) : Prop extends IsTidy name where
  safe : IsSafe name
  last_ne : name.toList.getLast? ≠ some '_'

/-- The names that stay as they are. -/
theorem sanitize_eq_self_iff {name : String} : sanitize name = name ↔ IsNormal name := by
  constructor
  · intro h
    have htidy : IsTidy name := h ▸ isTidy_sanitize name
    have hsafe : IsSafe name := h ▸ isSafe_sanitize name
    rw [sanitize_of_isTidy htidy hsafe, ← String.toList_inj, String.toList_ofList] at h
    exact ⟨htidy, hsafe, trimmed_eq_self_iff.1 h⟩
  · intro h
    rw [sanitize_of_isTidy h.toIsTidy h.safe, trimmed_eq_self_iff.2 h.last_ne, String.ofList_toList]

theorem isNormal_sanitize_iff (name : String) :
    IsNormal (sanitize name) ↔ (sanitize name).toList.getLast? ≠ some '_' :=
  ⟨IsNormal.last_ne, fun h => ⟨isTidy_sanitize name, isSafe_sanitize name, h⟩⟩

/-- The second time, the end is put right. -/
theorem isNormal_sanitize_sanitize (name : String) : IsNormal (sanitize (sanitize name)) := by
  rw [isNormal_sanitize_iff, sanitize_of_isTidy (isTidy_sanitize name) (isSafe_sanitize name),
    String.toList_ofList]
  exact getLast?_trimmed _

/-- What is left of a name are the first fifty characters of its runs with an underscore between
them, or a word of its own if there is no run. It begins with no underscore. It ends in one exactly
if the cut falls behind one, and stays as it is when it is taken as a name exactly if the cut does
not. What is left the second time is normal, that is, it stays as it is. -/
theorem normal_of_sanitize (name : String) :
    (sanitize name).toList = (if joined name.toList = [] then "scenario".toList
        else (joined name.toList).take 50) ∧
      (sanitize name).toList.head? ≠ some '_' ∧
      ((sanitize name).toList.getLast? = some '_' ↔ (joined name.toList)[49]? = some '_') ∧
      (sanitize (sanitize name) = sanitize name ↔ (joined name.toList)[49]? ≠ some '_') ∧
      IsNormal (sanitize (sanitize name)) ∧
      ∀ s, sanitize s = s ↔ IsNormal s := by
  have hend := getLast?_sanitize_iff name
  refine ⟨?_, (isTidy_sanitize name).head_ne, hend, ?_, isNormal_sanitize_sanitize name,
    fun _ => sanitize_eq_self_iff⟩
  · rw [sanitize, String.toList_ofList, sanitizeChars_eq_joined]
    rfl
  · rw [sanitize_eq_self_iff, isNormal_sanitize_iff]
    exact not_congr hend

/-- The fiftieth character of this name is an underscore, with another run behind it. -/
theorem underscore_left_by_cut :
    let name := "xxxxxxxxxxxxxxxxxxxxxxxxxxxxxxxxxxxxxxxxxxxxxxxxx y"
    let left := "xxxxxxxxxxxxxxxxxxxxxxxxxxxxxxxxxxxxxxxxxxxxxxxxx_"
    sanitize name = left ∧ left.toList.getLast? = some '_' ∧
      sanitize left = "xxxxxxxxxxxxxxxxxxxxxxxxxxxxxxxxxxxxxxxxxxxxxxxxx" ∧
      sanitize (sanitize name) ≠ sanitize name := by
  decide +kernel

end Capture
end Walkthrough
