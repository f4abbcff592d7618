/-!
# Walkthrough.Text.Search

Looking inside texts: the first occurrence of a character, occurrences of a text inside another,
and replacement of single characters.

* `splitFirst_eq_some_iff` says what a cut at the first occurrence is.
* `contains_iff_infix` says that a search finds exactly the infixes.
-/

namespace Walkthrough
namespace Text

/-- Cut a text at the first `sep`, which belongs to neither part. -/
def splitFirst (sep : Char) : List Char → Option (List Char × List Char)
  | [] => none
  | c :: cs =>
    if c = sep then some ([], cs)
    else (splitFirst sep cs).map fun p => (c :: p.1, p.2)

theorem splitFirst_eq_some_iff {sep : Char} {cs a b : List Char} :
    splitFirst sep cs = some (a, b) ↔ cs = a ++ sep :: b ∧ sep ∉ a := by
  induction cs generalizing a with
  | nil => simp [splitFirst]
  | cons c cs ih =>
    by_cases h : c = sep
    · subst h
      cases a with
      | nil => simp [splitFirst, eq_comm]
      | cons x xs =>
        simp only [splitFirst, if_true, Option.some.injEq, Prod.mk.injEq, List.nil_eq,
          reduceCtorEq, false_and, List.cons_append, List.cons.injEq, List.mem_cons, not_or,
          false_iff, not_and]
        rintro ⟨rfl, _⟩ hx
        exact absurd rfl hx
    · cases a with
      | nil =>
        simp only [splitFirst, h, if_false, Option.map_eq_some_iff, Prod.mk.injEq, reduceCtorEq,
          false_and, and_false, exists_false, List.nil_append, List.cons.injEq]
      | cons x xs =>
        simp only [splitFirst, h, if_false, Option.map_eq_some_iff, Prod.mk.injEq,
          List.cons.injEq, Prod.exists, List.cons_append, List.mem_cons, not_or]
        constructor
        · rintro ⟨p, q, hp, ⟨rfl, rfl⟩, rfl⟩
          obtain ⟨rfl, hs⟩ := ih.1 hp
          exact ⟨⟨rfl, rfl⟩, fun e => h e.symm, hs⟩
        · rintro ⟨⟨rfl, rfl⟩, _, hs⟩
          exact ⟨xs, b, ih.2 ⟨rfl, hs⟩, ⟨rfl, rfl⟩, rfl⟩

/-- Cut at every `sep`; a text without one is its own single part. -/
def splitAll (sep : Char) : List Char → List (List Char)
  | [] => [[]]
  | c :: cs =>
    if c = sep then [] :: splitAll sep cs
    else match splitAll sep cs with
      | [] => [[c]]
      | part :: parts => (c :: part) :: parts

/-- A text occurs in another when the other has it as a contiguous part. -/
def containsChars (needle : List Char) : List Char → Bool
  | [] => needle.isEmpty
  | c :: cs => needle.isPrefixOf (c :: cs) || containsChars needle cs

/-- Does `needle` occur in `s`? The empty text occurs everywhere. -/
def contains (needle s : String) : Bool :=
  containsChars needle.toList s.toList

theorem containsChars_iff_infix {needle cs : List Char} :
    containsChars needle cs = true ↔ needle <:+: cs := by
  induction cs with
  | nil => simp [containsChars]
  | cons c cs ih =>
    simp only [containsChars, Bool.or_eq_true, ih, List.isPrefixOf_iff_prefix]
    exact List.infix_cons_iff.symm

theorem contains_iff_infix {needle s : String} :
    contains needle s = true ↔ needle.toList <:+: s.toList :=
  containsChars_iff_infix

/-- Put `f c` in place of every character `c`. -/
def expand (f : Char → List Char) (s : String) : String :=
  String.ofList (s.toList.flatMap f)

/-- The ASCII letters of a text in lower case, all else unchanged. -/
def lowerAscii (s : String) : String :=
  String.ofList (s.toList.map Char.toLower)

/-- Take the characters that satisfy `p` off the back. -/
def dropEndWhile (p : Char → Bool) (cs : List Char) : List Char :=
  (cs.reverse.dropWhile p).reverse

/-- Drop the last `n` characters. -/
def dropEnd (n : Nat) (cs : List Char) : List Char :=
  cs.take (cs.length - n)

/-- Write `n` in decimal with at least `width` digits. -/
def padded (width n : Nat) : String :=
  let digits := Nat.repr n
  String.ofList (List.replicate (width - digits.length) '0') ++ digits

end Text
end Walkthrough
