import Walkthrough.Json.Value

/-!
# Walkthrough.Json.Printer

JSON values as text, on one line or spread over lines with two blanks for each level.

* `quote` writes a string with the escapes that JSON needs and no others.
* `compact` and `pretty` keep the members of an object in the order in which they are listed.
-/

namespace Walkthrough
namespace Json

/-- Two hexadecimal digits. -/
def hex2 (n : Nat) : List Char :=
  let ds := Nat.toDigits 16 n
  List.replicate (2 - ds.length) '0' ++ ds

/-- A character inside a string. -/
def escapeChar (c : Char) : List Char :=
  if c = '"' then ['\\', '"']
  else if c = '\\' then ['\\', '\\']
  else if c = '\n' then ['\\', 'n']
  else if c = '\r' then ['\\', 'r']
  else if c = '\t' then ['\\', 't']
  else if c.toNat = 0x08 then ['\\', 'b']
  else if c.toNat = 0x0C then ['\\', 'f']
  else if c.toNat < 0x20 then '\\' :: 'u' :: '0' :: '0' :: hex2 c.toNat
  else [c]

/-- A string between its quotes. -/
def quoteChars (s : String) : List Char :=
  '"' :: (s.toList.flatMap escapeChar ++ ['"'])

def quote (s : String) : String := String.ofList (quoteChars s)

mutual

/-- A value on one line. -/
def compactChars : Value → List Char
  | .null => "null".toList
  | .boolean b => (if b then "true" else "false").toList
  | .number n => n.text.toList
  | .text s => quoteChars s
  | .array [] => ['[', ']']
  | .array (v :: vs) => '[' :: (compactChars v ++ compactItems vs)
  | .object [] => ['{', '}']
  | .object ((k, v) :: ms) => '{' :: (quoteChars k ++ ':' :: (compactChars v ++ compactMembers ms))

/-- The items after the first, and the closing bracket. -/
def compactItems : List Value → List Char
  | [] => [']']
  | v :: vs => ',' :: (compactChars v ++ compactItems vs)

/-- The members after the first, and the closing brace. -/
def compactMembers : List (String × Value) → List Char
  | [] => ['}']
  | (k, v) :: ms => ',' :: (quoteChars k ++ ':' :: (compactChars v ++ compactMembers ms))

end

/-- The text of a value on one line. -/
def compact (v : Value) : String := String.ofList (compactChars v)

/-- A line break and the blanks of a level. -/
def newLine (level : Nat) : List Char := '\n' :: List.replicate (2 * level) ' '

mutual

/-- A value over several lines, its first line being already indented. -/
def prettyChars (level : Nat) : Value → List Char
  | .null => "null".toList
  | .boolean b => (if b then "true" else "false").toList
  | .number n => n.text.toList
  | .text s => quoteChars s
  | .array [] => ['[', ']']
  | .array (v :: vs) =>
    '[' :: (newLine (level + 1) ++ prettyChars (level + 1) v ++ prettyItems level vs)
  | .object [] => ['{', '}']
  | .object ((k, v) :: ms) =>
    '{' :: (newLine (level + 1) ++ quoteChars k ++ ':' :: ' ' :: prettyChars (level + 1) v
      ++ prettyMembers level ms)

/-- The items after the first, and the closing bracket. -/
def prettyItems (level : Nat) : List Value → List Char
  | [] => newLine level ++ [']']
  | v :: vs =>
    ',' :: (newLine (level + 1) ++ prettyChars (level + 1) v ++ prettyItems level vs)

/-- The members after the first, and the closing brace. -/
def prettyMembers (level : Nat) : List (String × Value) → List Char
  | [] => newLine level ++ ['}']
  | (k, v) :: ms =>
    ',' :: (newLine (level + 1) ++ quoteChars k ++ ':' :: ' ' :: prettyChars (level + 1) v
      ++ prettyMembers level ms)

end

/-- The text of a value over several lines. -/
def pretty (v : Value) : String := String.ofList (prettyChars 0 v)

end Json
end Walkthrough
