/-!
# Walkthrough.Text.Blank

Blank characters (the Unicode property `White_Space`) and what follows from them: trimming a text
at both ends and cutting it into words.

* `trimStart_of_head` says that trimming leaves a text alone that starts with no blank.
* `isBlank_of_isWhitespace` places the ASCII blanks in the property.
-/

namespace Walkthrough
namespace Text

/-- The ranges of code points with the property `White_Space`. -/
def blankRanges : List (Nat × Nat) :=
  [(0x09, 0x0D), (0x20, 0x20), (0x85, 0x85), (0xA0, 0xA0), (0x1680, 0x1680), (0x2000, 0x200A),
    (0x2028, 0x2029), (0x202F, 0x202F), (0x205F, 0x205F), (0x3000, 0x3000)]

/-- A blank character separates words. -/
def isBlank (c : Char) : Bool :=
  blankRanges.any fun r => r.1 ≤ c.toNat && c.toNat ≤ r.2

theorem isBlank_of_isWhitespace {c : Char} (h : c.isWhitespace = true) : isBlank c = true := by
  simp only [Char.isWhitespace, Bool.or_eq_true, decide_eq_true_eq] at h
  rcases h with ((rfl | rfl) | rfl) | rfl <;> decide

/-- The characters left when blanks are taken off the front. -/
def trimStart (cs : List Char) : List Char :=
  cs.dropWhile isBlank

/-- The characters left when blanks are taken off the back. -/
def trimEnd (cs : List Char) : List Char :=
  (cs.reverse.dropWhile isBlank).reverse

/-- The characters left when blanks are taken off both ends. -/
def trimChars (cs : List Char) : List Char :=
  trimEnd (trimStart cs)

/-- Take the blanks off both ends of a text. -/
def trim (s : String) : String :=
  String.ofList (trimChars s.toList)

/-- A text is blank when it holds blank characters only. -/
def isBlankText (s : String) : Bool :=
  s.toList.all isBlank

/-- The first word, which starts at once, and what follows its end. -/
def takeWord (cs : List Char) : List Char × List Char :=
  (cs.takeWhile (!isBlank ·), cs.dropWhile (!isBlank ·))

/-- The maximal runs of characters that are not blank; `word` is the run being read, reversed. -/
def wordsAux : List Char → List Char → List (List Char)
  | word, [] => if word.isEmpty then [] else [word.reverse]
  | word, c :: cs =>
    if isBlank c then
      if word.isEmpty then wordsAux [] cs else word.reverse :: wordsAux [] cs
    else wordsAux (c :: word) cs

/-- The words of a text, in order. -/
def words (s : String) : List String :=
  (wordsAux [] s.toList).map String.ofList

theorem trimStart_of_head {c : Char} {cs : List Char} (h : isBlank c = false) :
    trimStart (c :: cs) = c :: cs := by
  simp [trimStart, h]

end Text
end Walkthrough
