import Walkthrough.Action.Basic
import Walkthrough.Proofs.Trimming

/-!
# Walkthrough.Proofs.Locators

Locators and targets as they are read and as they are written.

* `parse_eq_ok_iff`: what a text has to look like to be read as a locator.
* `parse_text`: a locator whose value is not blank is read from its own text.
* `Target.parse_text`: so is the element of a target that was read, although blanks are taken off
  another part of the text.
* `reread_of_text` puts them together.
-/

namespace Walkthrough

namespace Locator

open Text

/-! ## Locators -/

theorem Strategy.ofWord?_eq_some_iff {s : String} {strategy : Strategy} :
    ofWord? s = some strategy ↔ s = strategy.word := by
  constructor
  · intro h
    simpa [eq_comm] using List.find?_some h
  · rintro rfl
    exact ofWord?_word strategy

/-- The text is cut at its first colon. In front of it stands a strategy, and behind it the value. -/
theorem parse_eq_ok_iff {s : String} {l : Locator} : parse s = .ok l ↔
    ∃ front : String, s = front ++ ":" ++ l.value ∧ ':' ∉ front.toList ∧
      trim front = l.strategy.word ∧ isBlankText l.value = false := by
  obtain ⟨strategy, value⟩ := l
  constructor
  · intro h
    unfold parse at h
    split at h
    · cases h
    · next front back hsplit =>
      obtain ⟨hs, hfront⟩ := splitFirst_eq_some_iff.1 hsplit
      split at h
      · cases h
      · next found hfound =>
        split at h
        · cases h
        · next hblank =>
          cases h
          refine ⟨String.ofList front, ?_, by rwa [String.toList_ofList],
            Strategy.ofWord?_eq_some_iff.1 hfound, ?_⟩
          · rw [← String.toList_inj]
            simp [hs]
          · simpa [isBlankText] using hblank
  · rintro ⟨front, rfl, hfront, hword, hblank⟩
    have hsplit : splitFirst ':' (front ++ ":" ++ value).toList =
        some (front.toList, value.toList) :=
      splitFirst_eq_some_iff.2 ⟨by simp, hfront⟩
    have hfound : Strategy.ofWord? (trim front) = some strategy :=
      Strategy.ofWord?_eq_some_iff.2 hword
    have hvalue : value.toList.all isBlank = false := hblank
    unfold parse
    rw [hsplit]
    simp [hfound, hvalue]

theorem notBlank_of_mem_word {strategy : Strategy} {c : Char} (h : c ∈ strategy.word.toList) :
    isBlank c = false ∧ c ≠ ':' := by
  have hall : strategy.word.toList.all (fun c => isBlank c = false ∧ c ≠ ':') = true := by
    cases strategy <;> decide
  exact of_decide_eq_true (List.all_eq_true.1 hall c h)

theorem isTrimmed_word (strategy : Strategy) : IsTrimmed strategy.word.toList :=
  isTrimmed_of_forall fun _ hc => (notBlank_of_mem_word hc).1

theorem colon_notMem_word (strategy : Strategy) : ':' ∉ strategy.word.toList :=
  fun h => (notBlank_of_mem_word h).2 rfl

/-- A locator whose value is not blank is read from its own text. -/
theorem parse_text {l : Locator} (h : isBlankText l.value = false) : parse l.text = .ok l :=
  parse_eq_ok_iff.2 ⟨l.strategy.word, rfl, colon_notMem_word l.strategy,
    trim_of_isTrimmed (isTrimmed_word l.strategy), h⟩

/-- The colon behind the word of a strategy is the first. -/
theorem colon_notMem_of_trim {front : String} {strategy : Strategy}
    (h : trim front = strategy.word) : ':' ∉ front.toList := by
  intro hcolon
  have hmem : ':' ∈ (trim front).toList := by
    rw [toList_trim]
    exact mem_trimChars hcolon (by decide)
  rw [h] at hmem
  exact colon_notMem_word strategy hmem

theorem exists_parse_iff {s : String} : (∃ l, parse s = .ok l) ↔
    ∃ (front value : String) (strategy : Strategy), s = front ++ ":" ++ value ∧
      trim front = strategy.word ∧ isBlankText value = false := by
  constructor
  · rintro ⟨l, h⟩
    obtain ⟨front, hs, -, hword, hblank⟩ := parse_eq_ok_iff.1 h
    exact ⟨front, l.value, l.strategy, hs, hword, hblank⟩
  · rintro ⟨front, value, strategy, hs, hword, hblank⟩
    exact ⟨⟨strategy, value⟩,
      parse_eq_ok_iff.2 ⟨front, hs, colon_notMem_of_trim hword, hword, hblank⟩⟩

end Locator

namespace Target

open Text

/-! ## Targets -/

theorem parse_eq_page_iff {s : String} :
    parse s = .ok .page ↔ trim s = "" ∨ trim s = pageWord := by
  unfold parse
  dsimp only
  by_cases hpage : (trim s).isEmpty = true ∨ trim s = pageWord
  · rw [if_pos (by simpa using hpage)]
    simpa using hpage
  · rw [if_neg (by simpa using hpage)]
    have hnot : ¬(trim s = "" ∨ trim s = pageWord) := by simpa using hpage
    cases Locator.parse (trim s) <;> simpa using hnot

theorem parse_eq_element_iff {s : String} {l : Locator} : parse s = .ok (.element l) ↔
    trim s ≠ "" ∧ trim s ≠ pageWord ∧ Locator.parse (trim s) = .ok l := by
  unfold parse
  dsimp only
  by_cases hpage : (trim s).isEmpty = true ∨ trim s = pageWord
  · rw [if_pos (by simpa using hpage)]
    have hword : trim s = "" ∨ trim s = pageWord := by simpa using hpage
    rcases hword with h | h <;> simp [h]
  · rw [if_neg (by simpa using hpage)]
    have hnot : trim s ≠ "" ∧ trim s ≠ pageWord := by simpa using hpage
    cases hparse : Locator.parse (trim s) <;> simp [hnot]

/-- The text of a locator that was read from a trimmed text is trimmed: it starts with its strategy,
and its value goes to the end. -/
theorem isTrimmed_text {s : String} {l : Locator} (hs : IsTrimmed s.toList)
    (h : Locator.parse s = .ok l) : IsTrimmed l.text.toList := by
  obtain ⟨front, rfl, -, -, hblank⟩ := Locator.parse_eq_ok_iff.1 h
  have hvalue : l.value.toList ≠ [] := by
    intro hnil
    simp [isBlankText, hnil] at hblank
  have hlast (start : List Char) : (start ++ l.value.toList).getLast? = l.value.toList.getLast? :=
    List.getLast?_append_of_ne_nil start hvalue
  constructor
  · intro c hc
    rw [Locator.text, String.append_assoc, String.toList_append, List.head?_append] at hc
    rcases Option.or_eq_some_iff.1 hc with hword | ⟨-, hcolon⟩
    · exact (Locator.isTrimmed_word l.strategy).1 c hword
    · obtain rfl : c = ':' := by simpa [eq_comm] using hcolon
      decide
  · intro c hc
    refine hs.2 c ?_
    rw [String.toList_append, hlast]
    rwa [Locator.text, String.toList_append, hlast] at hc

/-- The element of a target is read from its own text. -/
theorem parse_text {s : String} {l : Locator} (h : parse s = .ok (.element l)) :
    parse l.text = .ok (.element l) := by
  obtain ⟨-, -, hparse⟩ := parse_eq_element_iff.1 h
  obtain ⟨front, -, -, -, hblank⟩ := Locator.parse_eq_ok_iff.1 hparse
  have htrimmed : IsTrimmed (trim s).toList := by
    rw [toList_trim]
    exact isTrimmed_trimChars _
  have htext : trim l.text = l.text := trim_of_isTrimmed (isTrimmed_text htrimmed hparse)
  have hcolon : ':' ∈ l.text.toList := by simp [Locator.text]
  refine parse_eq_element_iff.2 ⟨?_, ?_, ?_⟩
  · rw [htext]
    rintro heq
    simp [heq] at hcolon
  · rw [htext]
    intro heq
    simp [heq, pageWord] at hcolon
  · rw [htext]
    exact Locator.parse_text hblank

end Target

namespace Locator

open Text

/-- A text is read as a locator exactly if a strategy and a value that is not blank stand around a
colon; this is the first one, and the value is all that stands behind it. Written again, a locator
is read as it was, so that no two have one text. So is the element of a target, and a target is the
page exactly if its text, without blanks around it, is empty or the word for the page. -/
theorem reread_of_text :
    (∀ s, (∃ l, parse s = .ok l) ↔ ∃ (front value : String) (strategy : Strategy),
      s = front ++ ":" ++ value ∧ trim front = strategy.word ∧ isBlankText value = false) ∧
    (∀ s l, parse s = .ok l → ∃ front : String, s = front ++ ":" ++ l.value ∧
      ':' ∉ front.toList ∧ trim front = l.strategy.word) ∧
    (∀ l, isBlankText l.value = false → parse l.text = .ok l) ∧
    (∀ s t, Target.parse s = .ok t → (t = .page ↔ trim s = "" ∨ trim s = "url") ∧
      ∀ l, t = .element l → Target.parse l.text = .ok t) ∧
    ∀ l l' : Locator, isBlankText l.value = false → isBlankText l'.value = false →
      l.text = l'.text → l = l' := by
  refine ⟨fun s => exists_parse_iff, ?kept, fun l => parse_text, ?target, ?distinct⟩
  case kept =>
    intro s l h
    obtain ⟨front, hs, hfront, hword, -⟩ := parse_eq_ok_iff.1 h
    exact ⟨front, hs, hfront, hword⟩
  case target =>
    intro s t h
    constructor
    · rw [show "url" = Target.pageWord from rfl, ← Target.parse_eq_page_iff, h, Except.ok.injEq]
    · rintro l rfl
      exact Target.parse_text h
  case distinct =>
    intro l l' hl hl' heq
    have hparse := parse_text hl
    rw [heq, parse_text hl'] at hparse
    exact (Except.ok.inj hparse).symm

end Locator
end Walkthrough
