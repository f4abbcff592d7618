import Mathlib.Data.List.Basic
import Walkthrough.Proofs.Parts
import Walkthrough.Text.Hexadecimal
import Walkthrough.WebDriver.Wire

/-!
# Walkthrough.Proofs.Selectors

What a browser reads in the selectors that locators are written as.

The value of an attribute stands between quotes, and a backslash takes the character behind it as it
is. The names of classes are identifiers of the style sheet language: letters, digits, dashes,
underscores and whatever is not ASCII, not with a digit in front; any other character has to be
escaped.

* `readQuoted_cssQuote`: a value is read as it was up to its quote, whatever stands behind that.
* `attribute_of_wireLocator`: so identifiers and names are read from their selectors.
* `readClasses_of_names`, `plain_of_readClasses`: names are read as they are if they are identifiers
  without escapes, and no others are.
* `classes_of_wireLocator`: which classes are read from their selector, and which share one.
  `same_of_dotted` are two that do.
-/

namespace Walkthrough
namespace WebDriver

open Text

/-! ## Values of attributes -/

/-- A text up to its quote, and what stands behind that. A backslash takes a character as it is. -/
def readQuoted : List Char → Option (List Char × List Char)
  | [] => none
  | '"' :: cs => some ([], cs)
  | '\\' :: c :: cs => (readQuoted cs).map fun p => (c :: p.1, p.2)
  | c :: cs => (readQuoted cs).map fun p => (c :: p.1, p.2)

/-- The attribute and the value that a selector asks for, if it has nothing else in it. -/
def readAttribute (selector : String) : Option (String × String) :=
  match selector.toList with
  | '[' :: cs =>
    match splitFirst '=' cs with
    | some (name, '"' :: rest) =>
      match readQuoted rest with
      | some (value, [']']) => some (String.ofList name, String.ofList value)
      | _ => none
    | _ => none
  | _ => none

theorem readQuoted_escapeCss (c : Char) (rest : List Char) :
    readQuoted (escapeCss c ++ rest) = (readQuoted rest).map fun p => (c :: p.1, p.2) := by
  unfold escapeCss
  split
  · rfl
  · next h =>
    obtain ⟨hbackslash, hquote⟩ := not_or.1 h
    simp [readQuoted, hbackslash]

/-- A value is read as it was up to its quote, whatever stands behind that. -/
theorem readQuoted_cssQuote (value : String) (rest : List Char) :
    readQuoted ((cssQuote value).toList ++ '"' :: rest) = some (value.toList, rest) := by
  rw [cssQuote, expand, String.toList_ofList]
  induction value.toList with
  | nil => rfl
  | cons c cs ih =>
    rw [List.flatMap_cons, List.append_assoc, readQuoted_escapeCss, ih, Option.map_some]

theorem readAttribute_attributeSelector {name : String} (h : '=' ∉ name.toList) (value : String) :
    readAttribute (attributeSelector name value) = some (name, value) := by
  have hselector : (attributeSelector name value).toList =
      '[' :: (name.toList ++ '=' :: '"' :: ((cssQuote value).toList ++ ['"', ']'])) := by
    simp [attributeSelector]
  have hname :
      splitFirst '=' (name.toList ++ '=' :: '"' :: ((cssQuote value).toList ++ ['"', ']'])) =
        some (name.toList, '"' :: ((cssQuote value).toList ++ ['"', ']'])) :=
    splitFirst_eq_some_iff.2 ⟨rfl, h⟩
  simp only [readAttribute, hselector, hname, readQuoted_cssQuote, String.ofList_toList]

/-- Put a text in place of a character wherever it occurs. -/
def replaceChar (c : Char) (text : List Char) (s : String) : String :=
  expand (fun d => if d = c then text else [d]) s

/-- Escaping goes through the text once, as if it went first for the backslashes and then for the
quotes. -/
theorem cssQuote_eq (s : String) :
    cssQuote s = replaceChar '"' ['\\', '"'] (replaceChar '\\' ['\\', '\\'] s) := by
  rw [cssQuote, replaceChar, replaceChar, expand, expand, expand, String.toList_ofList,
    List.flatMap_assoc]
  refine congrArg _ (List.flatMap_congr fun c _ => ?_)
  by_cases hbackslash : c = '\\'
  · simp [escapeCss, hbackslash]
  · by_cases hquote : c = '"' <;> simp [escapeCss, hbackslash, hquote]

/-- The selectors of identifiers and of names are read as the attribute and the value of the
locator, so that no two of them are the same; and nothing in a value ends it. -/
theorem attribute_of_wireLocator (value other : String) :
    (wireLocator ⟨.id, value⟩).1 = "css selector" ∧
      readAttribute (wireLocator ⟨.id, value⟩).2 = some ("id", value) ∧
      (wireLocator ⟨.name, value⟩).1 = "css selector" ∧
      readAttribute (wireLocator ⟨.name, value⟩).2 = some ("name", value) ∧
      (wireLocator ⟨.id, value⟩ = wireLocator ⟨.id, other⟩ ↔ value = other) ∧
      (wireLocator ⟨.name, value⟩ = wireLocator ⟨.name, other⟩ ↔ value = other) ∧
      wireLocator ⟨.id, value⟩ ≠ wireLocator ⟨.name, other⟩ ∧
      (∀ rest, readQuoted ((cssQuote value).toList ++ '"' :: rest) = some (value.toList, rest)) ∧
      cssQuote value = replaceChar '"' ['\\', '"'] (replaceChar '\\' ['\\', '\\'] value) := by
  have hid (v : String) : readAttribute (wireLocator ⟨.id, v⟩).2 = some ("id", v) :=
    readAttribute_attributeSelector (by decide) v
  have hname (v : String) : readAttribute (wireLocator ⟨.name, v⟩).2 = some ("name", v) :=
    readAttribute_attributeSelector (by decide) v
  refine ⟨rfl, hid value, rfl, hname value, ⟨fun h => ?_, fun h => h ▸ rfl⟩,
    ⟨fun h => ?_, fun h => h ▸ rfl⟩, fun h => ?_, readQuoted_cssQuote value, cssQuote_eq value⟩
  · have hread := hid value
    rw [h, hid] at hread
    simpa [eq_comm] using hread
  · have hread := hname value
    rw [h, hname] at hread
    simpa [eq_comm] using hread
  · have hread := hid value
    rw [h, hname] at hread
    simp at hread

/-! ## Identifiers -/

/-- A character that ends a line. -/
def isBreak (c : Char) : Bool := c = '\n' || c = '\r' || c = '\x0c'

/-- A character that an identifier can have anywhere. -/
def isNameChar (c : Char) : Bool := c.isAlphanum || c = '-' || c = '_' || 0x80 ≤ c.toNat

/-- A character that an identifier can start with. -/
def isNameStart (c : Char) : Bool := c.isAlpha || c = '_' || 0x80 ≤ c.toNat

/-- The character of a code point, if it has one. -/
def charOf (n : Nat) : Char := if n ≠ 0 ∧ n.isValidChar then Char.ofNat n else '\uFFFD'

/-- The blank that ends the digits of a code point. -/
def skipBlank : List Char → List Char
  | [] => []
  | c :: cs => if c = ' ' || c = '\t' || isBreak c then cs else c :: cs

/-- The digits of a code point, six at most. -/
def codeDigits (cs : List Char) : List Char := (cs.takeWhile fun c => (hexValue? c).isSome).take 6

/-- The character that an escape stands for, and what follows it: a code point in hexadecimal
digits, or the character itself unless it ends a line. -/
def readEscape (cs : List Char) : Option (Char × List Char) :=
  match hexNumber? (codeDigits cs) with
  | some n => some (charOf n, skipBlank (cs.drop (codeDigits cs).length))
  | none =>
    match cs with
    | [] => none
    | c :: rest => if isBreak c then none else some (c, rest)

theorem length_skipBlank (cs : List Char) : (skipBlank cs).length ≤ cs.length := by
  cases cs with
  | nil => exact Nat.le_refl 0
  | cons c cs =>
    rw [skipBlank]
    split
    · exact Nat.le_succ _
    · exact Nat.le_refl _

theorem length_readEscape {cs rest : List Char} {c : Char} (h : readEscape cs = some (c, rest)) :
    rest.length < cs.length := by
  unfold readEscape at h
  split at h
  · next hnumber =>
    cases h
    have hdigits : codeDigits cs ≠ [] := by
      intro hnil
      simp [hexNumber?, hnil] at hnumber
    have hlength : (codeDigits cs).length ≤ cs.length :=
      ((List.take_sublist 6 _).trans (List.takeWhile_sublist _)).length_le
    have hpos := List.length_pos_iff.2 hdigits
    have hblank := length_skipBlank (cs.drop (codeDigits cs).length)
    rw [List.length_drop] at hblank
    omega
  · split at h
    · cases h
    · split at h
      · cases h
      · cases h
        exact Nat.lt_succ_self _

/-- The characters of an identifier that goes on here, and what stands behind it. -/
def readName (cs : List Char) : List Char × List Char :=
  match cs with
  | [] => ([], [])
  | c :: rest =>
    if c = '\\' then
      match h : readEscape rest with
      | some (d, after) =>
        have : after.length < rest.length := length_readEscape h
        (d :: (readName after).1, (readName after).2)
      | none => ([], c :: rest)
    else if isNameChar c then (c :: (readName rest).1, (readName rest).2)
    else ([], c :: rest)
termination_by cs.length

/-- Does an identifier start here? -/
def startsName : List Char → Bool
  | [] => false
  | c :: cs =>
    if c = '-' then
      match cs with
      | [] => false
      | d :: rest => isNameStart d || d = '-' || (d = '\\' && (readEscape rest).isSome)
    else isNameStart c || (c = '\\' && (readEscape cs).isSome)

/-- An identifier is no longer than what is read of it, and shorter if there is an escape in it. -/
theorem readName_spec (cs : List Char) :
    (readName cs).1.length + (readName cs).2.length ≤ cs.length ∧
      (cs.length ≤ (readName cs).1.length + (readName cs).2.length →
        cs = (readName cs).1 ++ (readName cs).2 ∧ ∀ c ∈ (readName cs).1, isNameChar c = true) := by
  fun_induction readName cs with
  | case1 => simp
  | case2 rest d after h hlt ih =>
    -- The backslash itself is lost, so the second part says nothing.
    simp only [List.length_cons]
    exact ⟨by omega, fun hlong => by omega⟩
  | case3 rest h => simp
  | case4 c rest hc hname ih =>
    obtain ⟨hlength, hequal⟩ := ih
    simp only [List.length_cons, List.cons_append, List.cons.injEq, true_and, List.forall_mem_cons]
    refine ⟨by omega, fun hlong => ?_⟩
    obtain ⟨hrest, hall⟩ := hequal (by omega)
    exact ⟨hrest, hname, hall⟩
  | case5 c rest hc hname => simp

/-- A text in which no identifier goes on. -/
def StopsName (cs : List Char) : Prop := ∀ c ∈ cs.head?, c = '.'

theorem readName_append {name rest : List Char} (h : ∀ c ∈ name, isNameChar c = true)
    (hrest : StopsName rest) : readName (name ++ rest) = (name, rest) := by
  induction name with
  | nil =>
    cases rest with
    | nil => rw [List.nil_append, readName]
    | cons c rest =>
      obtain rfl : c = '.' := hrest c rfl
      rw [List.nil_append, readName]
      rfl
  | cons c name ih =>
    obtain ⟨hc, hname⟩ := List.forall_mem_cons.1 h
    have hescape : c ≠ '\\' := by
      rintro rfl
      cases hc
    rw [List.cons_append, readName, if_neg hescape, if_pos hc, ih hname]

theorem startsName_of_stopsName {cs : List Char} (h : StopsName cs) : startsName cs = false := by
  cases cs with
  | nil => rfl
  | cons c cs =>
    obtain rfl : c = '.' := h c rfl
    rfl

/-- Whether an identifier starts is told by its own characters. -/
theorem startsName_append {name rest : List Char} (h : ∀ c ∈ name, isNameChar c = true)
    (hrest : StopsName rest) : startsName (name ++ rest) = startsName name := by
  have hescape : '\\' ∉ name := fun hmem => nomatch h _ hmem
  cases name with
  | nil => exact startsName_of_stopsName hrest
  | cons c name =>
    obtain ⟨hc, hname⟩ := not_or.1 (mt List.mem_cons.2 hescape)
    cases name with
    | cons d name =>
      have hd := (not_or.1 (mt List.mem_cons.2 hname)).1
      simp [startsName, Ne.symm hc, Ne.symm hd]
    | nil =>
      by_cases hdash : c = '-'
      · cases rest with
        | nil => rfl
        | cons d rest =>
          obtain rfl : d = '.' := hrest d rfl
          subst hdash
          rfl
      · simp [startsName, hdash, Ne.symm hc]

/-- An identifier without escapes. -/
structure IsIdentifier (name : List Char) : Prop where
  starts : startsName name = true
  all : ∀ c ∈ name, isNameChar c = true

/-! ## Classes -/

/-- The names of the classes that a selector asks for, if it has nothing else in it. -/
def readClasses (cs : List Char) : Option (List (List Char)) :=
  match cs with
  | [] => some []
  | c :: rest =>
    if c = '.' ∧ startsName rest = true then
      have : (readName rest).2.length ≤ rest.length := by
        have hlength := (readName_spec rest).1
        omega
      (readClasses (readName rest).2).map ((readName rest).1 :: ·)
    else none
termination_by cs.length

theorem stopsName_dotted (names : List (List Char)) : StopsName (names.flatMap ('.' :: ·)) := by
  cases names with
  | nil => exact fun c hc => nomatch hc
  | cons name names => exact fun c hc => (Option.some.inj hc).symm

theorem readClasses_of_names {names : List (List Char)} (h : ∀ n ∈ names, IsIdentifier n) :
    readClasses (names.flatMap ('.' :: ·)) = some names := by
  induction names with
  | nil => rw [List.flatMap_nil, readClasses]
  | cons name names ih =>
    obtain ⟨hname, hnames⟩ := List.forall_mem_cons.1 h
    have hrest := stopsName_dotted names
    have hstarts : startsName (name ++ names.flatMap ('.' :: ·)) = true :=
      (startsName_append hname.all hrest).trans hname.starts
    rw [List.flatMap_cons, List.cons_append, readClasses, if_pos ⟨rfl, hstarts⟩,
      readName_append hname.all hrest, ih hnames, Option.map_some]

/-- Names are no longer than what they are read from, and if they are as long, then nothing was
escaped. -/
theorem plain_of_readClasses {cs : List Char} {names : List (List Char)}
    (h : readClasses cs = some names) :
    (names.flatMap ('.' :: ·)).length ≤ cs.length ∧
      (cs.length ≤ (names.flatMap ('.' :: ·)).length →
        cs = names.flatMap ('.' :: ·) ∧ ∀ n ∈ names, IsIdentifier n) := by
  fun_induction readClasses cs generalizing names with
  | case1 =>
    cases h
    simp
  | case2 c rest hstarts hle ih =>
    obtain ⟨names, htail, rfl⟩ := Option.map_eq_some_iff.1 h
    obtain ⟨htailLength, htailEqual⟩ := ih htail
    obtain ⟨hnameLength, hnameEqual⟩ := readName_spec rest
    obtain ⟨rfl, hstarts⟩ := hstarts
    simp only [List.flatMap_cons, List.cons_append, List.length_cons, List.length_append]
    refine ⟨by omega, fun hlong => ?_⟩
    obtain ⟨htailEq, hnames⟩ := htailEqual (by omega)
    obtain ⟨hrest, hall⟩ := hnameEqual (by omega)
    have hstops : StopsName (readName rest).2 := htailEq ▸ stopsName_dotted names
    have hname : startsName (readName rest).1 = true := by
      rwa [← startsName_append hall hstops, ← hrest]
    exact ⟨by rw [← htailEq, ← hrest], List.forall_mem_cons.2 ⟨⟨hname, hall⟩, hnames⟩⟩
  | case3 c rest hstarts => cases h

/-- The classes that a selector asks for, if it has nothing else in it. -/
def classesOf (selector : String) : Option (List String) :=
  (readClasses selector.toList).map (List.map String.ofList)

theorem map_ofList_eq_iff {names : List (List Char)} {ws : List String} :
    names.map String.ofList = ws ↔ names = ws.map String.toList := by
  constructor
  · rintro rfl
    simp
  · rintro rfl
    simp

/-- A word has a character. -/
theorem ne_nil_of_mem_wordsAux {word cs w : List Char} (h : w ∈ wordsAux word cs) : w ≠ [] := by
  induction cs generalizing word with
  | nil =>
    rw [wordsAux] at h
    split at h
    · cases h
    · next hword =>
      obtain rfl := List.mem_singleton.1 h
      simpa using hword
  | cons c cs ih =>
    rw [wordsAux] at h
    split at h
    · split at h
      · exact ih h
      · next hword =>
        rcases List.mem_cons.1 h with rfl | h
        · simpa using hword
        · exact ih h
    · exact ih h

section Class

variable (value other : String)

/-- The characters of the words of a text. -/
def wordChars (s : String) : List (List Char) := (words s).map String.toList

theorem ne_nil_of_mem_wordChars {value : String} {w : List Char} (h : w ∈ wordChars value) :
    w ≠ [] := by
  rw [wordChars, words, List.map_map] at h
  simp only [List.mem_map, Function.comp_apply, String.toList_ofList, exists_eq_right] at h
  exact ne_nil_of_mem_wordsAux h

theorem toList_classSelector : (wireLocator ⟨.className, value⟩).2.toList =
    '.' :: List.intercalate ['.'] (wordChars value) := by
  simp [wireLocator, wordChars]

/-- Classes are read as they are if there is one, and all are identifiers without escapes. -/
theorem classesOf_eq_some_words_iff :
    classesOf (wireLocator ⟨.className, value⟩).2 = some (words value) ↔
      words value ≠ [] ∧ ∀ w ∈ words value, IsIdentifier w.toList := by
  have hwords : wordChars value ≠ [] ↔ words value ≠ [] := by simp [wordChars]
  rw [classesOf, toList_classSelector, Option.map_eq_some_iff, ← hwords]
  constructor
  · rintro ⟨names, hread, hnames⟩
    obtain rfl : names = wordChars value := map_ofList_eq_iff.1 hnames
    have hne : wordChars value ≠ [] := by
      intro hnil
      simp [hnil, readClasses, startsName] at hread
    rw [cons_intercalate _ hne] at hread
    exact ⟨hne, List.forall_mem_map.1 ((plain_of_readClasses hread).2 (Nat.le_refl _)).2⟩
  · rintro ⟨hne, hall⟩
    rw [cons_intercalate _ hne]
    exact ⟨wordChars value, readClasses_of_names (List.forall_mem_map.2 hall), by simp [wordChars]⟩

/-- Selectors of classes are told apart by the parts of the classes between their dots. -/
theorem classSelector_eq_iff :
    wireLocator ⟨.className, value⟩ = wireLocator ⟨.className, other⟩ ↔
      (words value).flatMap (fun w => splitAll '.' w.toList) =
        (words other).flatMap (fun w => splitAll '.' w.toList) := by
  have hvalue (v : String) : (words v).flatMap (fun w => splitAll '.' w.toList) =
      (wordChars v).flatMap (splitAll '.') := by rw [wordChars, List.flatMap_map]
  have hstrategy : (wireLocator ⟨.className, value⟩).1 = (wireLocator ⟨.className, other⟩).1 := rfl
  rw [hvalue, hvalue, ← intercalate_eq_iff (fun _ => ne_nil_of_mem_wordChars)
    (fun _ => ne_nil_of_mem_wordChars), Prod.ext_iff, and_iff_right hstrategy, ← String.toList_inj,
    toList_classSelector, toList_classSelector, List.cons_inj_right]

end Class

/-- Classes are read from their selector as they are exactly if there is one, and each of them is an
identifier without escapes. Two locators share a selector exactly if their classes have the same
parts between dots, so that classes without dots have a selector of their own. -/
theorem classes_of_wireLocator (value other : String) :
    (wireLocator ⟨.className, value⟩).1 = "css selector" ∧
      (classesOf (wireLocator ⟨.className, value⟩).2 = some (words value) ↔
        words value ≠ [] ∧ ∀ w ∈ words value, IsIdentifier w.toList) ∧
      (wireLocator ⟨.className, value⟩ = wireLocator ⟨.className, other⟩ ↔
        (words value).flatMap (fun w => splitAll '.' w.toList) =
          (words other).flatMap (fun w => splitAll '.' w.toList)) ∧
      ((∀ w ∈ words value ++ words other, '.' ∉ w.toList) →
        (wireLocator ⟨.className, value⟩ = wireLocator ⟨.className, other⟩ ↔
          words value = words other)) := by
  refine ⟨rfl, classesOf_eq_some_words_iff value, classSelector_eq_iff value other, fun h => ?_⟩
  obtain ⟨hvalue, hother⟩ := List.forall_mem_append.1 h
  have hwhole {ws : List String} (hws : ∀ w ∈ ws, '.' ∉ w.toList) :
      ws.flatMap (fun w => splitAll '.' w.toList) = ws.map String.toList := by
    rw [List.map_eq_flatMap]
    exact List.flatMap_congr fun w hw => splitAll_of_notMem (hws w hw)
  rw [classSelector_eq_iff, hwhole hvalue, hwhole hother]
  exact (List.map_injective_iff.2 fun _ _ => String.toList_inj.1).eq_iff

/-- A class with a dot in its name has the selector of two classes, and that asks for both. -/
theorem same_of_dotted :
    words "a.b" = ["a.b"] ∧ words "a b" = ["a", "b"] ∧
      wireLocator ⟨.className, "a.b"⟩ = wireLocator ⟨.className, "a b"⟩ ∧
      classesOf (wireLocator ⟨.className, "a.b"⟩).2 = some ["a", "b"] := by
  have hsame : wireLocator ⟨.className, "a.b"⟩ = wireLocator ⟨.className, "a b"⟩ := by
    decide +kernel
  have hwords : words "a b" = ["a", "b"] := by decide +kernel
  refine ⟨by decide +kernel, hwords, hsame, ?_⟩
  rw [hsame, ← hwords, classesOf_eq_some_words_iff, hwords]
  have hidentifiers : IsIdentifier "a".toList ∧ IsIdentifier "b".toList :=
    ⟨⟨rfl, List.forall_mem_singleton.2 rfl⟩, ⟨rfl, List.forall_mem_singleton.2 rfl⟩⟩
  simpa using hidentifiers

end WebDriver
end Walkthrough
