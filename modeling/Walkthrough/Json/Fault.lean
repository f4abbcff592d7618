import Walkthrough.Binary64.Digits
import Walkthrough.Text.Printable

/-!
# Walkthrough.Json.Fault

What can be wrong with a JSON document: its form, or the kinds of the values found where others
are expected.

* `Found` names a value in a complaint; `Fault.message` is the wording of every complaint.
* `layout` is how documents write numbers.
-/

namespace Walkthrough
namespace Json

/-- Numbers in documents carry a plus sign in the exponent; what is no finite number has no place
in a document. -/
def layout : Binary64.Layout where
  plus := true
  notNumber := "null"
  infinite := "null"

/-- A value that stands where another kind is expected. -/
inductive Found where
  | null
  | boolean (b : Bool)
  | integer (n : Int)
  | real (x : Binary64)
  | text (s : String)
  | sequence
  | map
deriving DecidableEq, Repr

/-- The integer as decimal digits with a sign where needed. -/
def integerText (n : Int) : String :=
  if n < 0 then "-" ++ Nat.repr n.natAbs else Nat.repr n.natAbs

def Found.describe : Found → String
  | .null => "null"
  | .boolean b => "boolean `" ++ (if b then "true" else "false") ++ "`"
  | .integer n => "integer `" ++ integerText n ++ "`"
  | .real x => "floating point `" ++ x.written layout ++ "`"
  | .text s => "string " ++ Text.quoted s
  | .sequence => "sequence"
  | .map => "map"

/-- A reason why a document is refused. -/
inductive Fault where
  | endInList
  | endInObject
  | endInString
  | endInValue
  | expectedColon
  | expectedListCommaOrEnd
  | expectedObjectCommaOrEnd
  | expectedWord
  | expectedValue
  | invalidEscape
  | invalidNumber
  | numberOutOfRange
  | controlCharacter
  | keyNotString
  | loneSurrogate
  | missingSurrogate
  | trailingComma
  | trailingCharacters
  | tooDeep
  | invalidType (found : Found) (expected : String)
  | invalidValue (found : Found) (expected : String)
  | invalidLength (length : Nat) (expected : String)
  | missingField (name : String)
  | duplicateField (name : String)
  | unknownVariant (name : String) (known : List String)
  | unreadableText (reason : String)
deriving DecidableEq, Repr

/-- Names between backquotes, separated by commas. -/
def nameList (names : List String) : String :=
  String.intercalate ", " (names.map fun n => "`" ++ n ++ "`")

/-- The names that were expected, as the end of a sentence. -/
def expectedNames : List String → String
  | [] => "there are no variants"
  | [a] => "expected `" ++ a ++ "`"
  | [a, b] => "expected `" ++ a ++ "` or `" ++ b ++ "`"
  | names => "expected one of " ++ nameList names

def Fault.message : Fault → String
  | .endInList => "EOF while parsing a list"
  | .endInObject => "EOF while parsing an object"
  | .endInString => "EOF while parsing a string"
  | .endInValue => "EOF while parsing a value"
  | .expectedColon => "expected `:`"
  | .expectedListCommaOrEnd => "expected `,` or `]`"
  | .expectedObjectCommaOrEnd => "expected `,` or `\x7d`"
  | .expectedWord => "expected ident"
  | .expectedValue => "expected value"
  | .invalidEscape => "invalid escape"
  | .invalidNumber => "invalid number"
  | .numberOutOfRange => "number out of range"
  | .controlCharacter => "control character (\\u0000-\\u001F) found while parsing a string"
  | .keyNotString => "key must be a string"
  | .loneSurrogate => "lone leading surrogate in hex escape"
  | .missingSurrogate => "unexpected end of hex escape"
  | .trailingComma => "trailing comma"
  | .trailingCharacters => "trailing characters"
  | .tooDeep => "recursion limit exceeded"
  | .invalidType f e => "invalid type: " ++ f.describe ++ ", expected " ++ e
  | .invalidValue f e => "invalid value: " ++ f.describe ++ ", expected " ++ e
  | .invalidLength n e => "invalid length " ++ Nat.repr n ++ ", expected " ++ e
  | .missingField n => "missing field `" ++ n ++ "`"
  | .duplicateField n => "duplicate field `" ++ n ++ "`"
  | .unknownVariant n known => "unknown variant `" ++ n ++ "`, " ++ expectedNames known
  | .unreadableText reason => reason

end Json
end Walkthrough
