import Walkthrough.Binary64.Reading
import Walkthrough.Power
import Walkthrough.Text.Printable

/-!
# Walkthrough.Yaml.Scalar

Texts as YAML scalars. A text stands plain where that reads back as the same text, between single
quotes where it would read as something else, between double quotes where it needs escapes, and as a
block where it has several lines.

* `styleOf` chooses the style; `scalar` writes the text and the end of its last line.
-/

namespace Walkthrough
namespace Yaml

inductive Style where
  | plain
  | singleQuoted
  | doubleQuoted
  | block
deriving DecidableEq, Repr

def isBreak (c : Char) : Bool :=
  c = '\n' || c = '\r' || c.toNat = 0x85 || c.toNat = 0x2028 || c.toNat = 0x2029

/-- What ends a word: a blank, the end of a line, or the end of the text. -/
def isWordEnd : Option Char → Bool
  | none => true
  | some c => c = ' ' || c = '\t' || isBreak c || c.toNat = 0

/-- Characters that may stand in a document as they are. -/
def isShown (c : Char) : Bool :=
  let n := c.toNat
  n = 0x0A || (0x20 ≤ n && n ≤ 0x7E) || (0xA0 ≤ n && n ≤ 0xFFFD && n != 0xFEFF) || 0x10000 ≤ n

/-- Two neighbours of the given kinds, in this order. -/
def adjacent (p q : Char → Bool) : List Char → Bool
  | a :: b :: rest => (p a && q b) || adjacent p q (b :: rest)
  | _ => false

/-- Does a plain text of this first character mean something else? -/
def startsOtherwise : List Char → Bool
  | [] => false
  | c :: rest =>
    c ∈ ['#', ',', '[', ']', '{', '}', '&', '*', '!', '|', '>', '\'', '"', '%', '@', '`']
      || ((c = '?' || c = ':' || c = '-') && isWordEnd rest.head?)
      || (c :: rest).take 3 = ['-', '-', '-'] || (c :: rest).take 3 = ['.', '.', '.']

/-- Is there a colon that ends a key, or a hash that starts a comment? -/
def endsInside : List Char → Bool
  | a :: b :: rest =>
    (b = ':' && isWordEnd rest.head?) || (b = '#' && isWordEnd (some a)) || endsInside (b :: rest)
  | _ => false

def isSpace (c : Char) : Bool := c = ' '

/-- Does the text begin or end with a blank or the end of a line? -/
def hasBlankEdge (cs : List Char) : Bool :=
  let edge : Option Char → Bool := fun c => c.any fun c => isSpace c || isBreak c
  edge cs.head? || edge cs.getLast?

def needsEscape (cs : List Char) : Bool :=
  cs.any (fun c => !isShown c) || adjacent isSpace isBreak cs

def plainAllowed (cs : List Char) : Bool :=
  !startsOtherwise cs && !endsInside cs && !hasBlankEdge cs && !cs.any isBreak && !needsEscape cs

def singleAllowed (cs : List Char) : Bool := !adjacent isBreak isSpace cs && !needsEscape cs

def blockAllowed (cs : List Char) : Bool := cs.getLast? != some ' ' && !needsEscape cs

/-- Digits of a base, at least one, below `2 ^ 128`. -/
def isDigits (base : Nat) (cs : List Char) : Bool :=
  let value (c : Char) : Nat :=
    if c.isDigit then c.toNat - '0'.toNat
    else if c.isAlpha then c.toLower.toNat - 'a'.toNat + 10
    else base
  !cs.isEmpty && cs.all (fun c => value c < base)
    && cs.foldl (fun n c => n * base + value c) 0 < twoTo 128

/-- Does the text read as an integer of another base than ten? -/
def readsAsBased (cs : List Char) : Bool :=
  let unsigned := match cs with
    | '+' :: r => r
    | '-' :: r => r
    | r => r
  match unsigned with
  | '0' :: 'x' :: r => isDigits 16 r
  | '0' :: 'o' :: r => isDigits 8 r
  | '0' :: 'b' :: r => isDigits 2 r
  | _ => false

/-- Does the text read as a number of base ten? -/
def readsAsDecimal (cs : List Char) : Bool :=
  let unsigned := match cs with
    | '+' :: r => r
    | r => r
  if cs.head? = some '+' && (unsigned.head? = some '+' || unsigned.head? = some '-') then false
  else
    String.ofList unsigned ∈ [".inf", ".Inf", ".INF"]
      || String.ofList cs ∈ ["-.inf", "-.Inf", "-.INF", ".nan", ".NaN", ".NAN"]
      || (Binary64.parse? (String.ofList unsigned)).any Binary64.isFinite

/-- Digits after a zero and perhaps a sign. -/
def isZeroLed (cs : List Char) : Bool :=
  let unsigned := match cs with
    | '+' :: r => r
    | '-' :: r => r
    | r => r
  unsigned.length > 1 && unsigned.head? = some '0' && unsigned.all Char.isDigit

/-- Would the text, plain, read as something that is no text? -/
def readsOtherwise (cs : List Char) : Bool :=
  String.ofList cs ∈
      ["", "null", "Null", "NULL", "~", "true", "True", "TRUE", "false", "False", "FALSE"]
    || readsAsBased cs || readsAsDecimal cs || isZeroLed cs

/-- The style in which a text is written. -/
def styleOf (cs : List Char) : Style :=
  if cs.contains '\n' then
    if blockAllowed cs then .block else .doubleQuoted
  else if !readsOtherwise cs && plainAllowed cs then .plain
  else if singleAllowed cs then .singleQuoted
  else .doubleQuoted

/-- Hexadecimal digits in upper case, at least `width` of them. -/
def upperHex (width n : Nat) : List Char :=
  let ds := (Nat.toDigits 16 n).map Char.toUpper
  List.replicate (width - ds.length) '0' ++ ds

/-- A character between double quotes. -/
def escape (c : Char) : List Char :=
  if isShown c && !isBreak c && c != '"' && c != '\\' then [c]
  else
    '\\' :: match c.toNat with
      | 0x00 => ['0']
      | 0x07 => ['a']
      | 0x08 => ['b']
      | 0x09 => ['t']
      | 0x0A => ['n']
      | 0x0B => ['v']
      | 0x0C => ['f']
      | 0x0D => ['r']
      | 0x1B => ['e']
      | 0x22 => ['"']
      | 0x5C => ['\\']
      | 0x85 => ['N']
      | 0xA0 => ['_']
      | 0x2028 => ['L']
      | 0x2029 => ['P']
      | n =>
        if n ≤ 0xFF then 'x' :: upperHex 2 n
        else if n ≤ 0xFFFF then 'u' :: upperHex 4 n
        else 'U' :: upperHex 8 n

/-- The lines of a text, each indented unless it is empty; `fresh` says that a line begins. -/
def indented (indent : Nat) : Bool → List Char → List Char
  | _, [] => []
  | fresh, c :: cs =>
    if isBreak c then c :: indented indent true cs
    else if fresh then List.replicate indent ' ' ++ c :: indented indent false cs
    else c :: indented indent false cs

/-- What stands behind the bar of a block: the indentation if the text begins with a blank, and how
the text ends. -/
def blockHeader (cs : List Char) : List Char :=
  let startsBlank := match cs with
    | [] => false
    | c :: _ => isSpace c || isBreak c
  let hint := if startsBlank then ['2'] else []
  let chomp := match cs.reverse with
    | [] => ['-']
    | [c] => if isBreak c then ['+'] else ['-']
    | c :: d :: _ => if isBreak c then (if isBreak d then ['+'] else []) else ['-']
  hint ++ chomp

/-- A text as a scalar at an indentation, with the end of its last line. -/
def scalar (indent : Nat) (s : String) : List Char :=
  let cs := s.toList
  match styleOf cs with
  | .plain => cs ++ ['\n']
  | .singleQuoted =>
    let body := indented indent false cs
    let body := body.flatMap fun c => if c = '\'' then ['\'', '\''] else [c]
    let close := match cs.getLast? with
      | some c => if isBreak c then List.replicate indent ' ' else []
      | none => []
    '\'' :: (body ++ close ++ ['\'', '\n'])
  | .doubleQuoted => '"' :: (cs.flatMap escape ++ ['"', '\n'])
  | .block =>
    let body := indented indent true cs
    let close := match cs.getLast? with
      | some c => if isBreak c then [] else ['\n']
      | none => []
    '|' :: (blockHeader cs ++ '\n' :: (body ++ close))

end Yaml
end Walkthrough
