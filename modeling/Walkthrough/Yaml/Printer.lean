import Walkthrough.Json.Value
import Walkthrough.Yaml.Scalar

/-!
# Walkthrough.Yaml.Printer

Documents as YAML, one member or item to a line. Items stand below their key at the same
indentation.

* `render` writes a document that is an object.
-/

namespace Walkthrough
namespace Yaml

open Json

/-- Numbers in YAML have no plus sign in the exponent and names for what is not finite. -/
def layout : Binary64.Layout where
  plus := false
  notNumber := ".nan"
  infinite := ".inf"

def numberText : Number → String
  | .natural n => Nat.repr n
  | .negative n => "-" ++ Nat.repr n
  | .real x => x.written layout

mutual

/-- What follows a key at an indentation, to the end of its last line. -/
def member (indent : Nat) : Value → List Char
  | .null => " null\n".toList
  | .boolean b => (if b then " true\n" else " false\n").toList
  | .number n => ' ' :: ((numberText n).toList ++ ['\n'])
  | .text s => ' ' :: scalar (indent + 2) s
  | .array [] => " []\n".toList
  | .array (v :: vs) => '\n' :: items indent (v :: vs)
  | .object [] => [' ', '{', '}', '\n']
  | .object (m :: ms) => '\n' :: (List.replicate (indent + 2) ' ' ++ members (indent + 2) (m :: ms))

/-- What follows the dash of an item at an indentation, to the end of its last line. -/
def item (indent : Nat) : Value → List Char
  | .null => " null\n".toList
  | .boolean b => (if b then " true\n" else " false\n").toList
  | .number n => ' ' :: ((numberText n).toList ++ ['\n'])
  | .text s => ' ' :: scalar (indent + 2) s
  | .array [] => " []\n".toList
  | .array (v :: vs) => ' ' :: '-' :: (item (indent + 2) v ++ items (indent + 2) vs)
  | .object [] => [' ', '{', '}', '\n']
  | .object (m :: ms) => ' ' :: members (indent + 2) (m :: ms)

/-- The items of an array, each on lines of its own. -/
def items (indent : Nat) : List Value → List Char
  | [] => []
  | v :: vs => List.replicate indent ' ' ++ '-' :: (item indent v ++ items indent vs)

/-- The members of an object, the first of which is already indented. -/
def members (indent : Nat) : List (String × Value) → List Char
  | [] => []
  | [(key, v)] => key.toList ++ ':' :: member indent v
  | (key, v) :: m :: ms =>
    key.toList ++ ':' :: (member indent v ++ (List.replicate indent ' ' ++ members indent (m :: ms)))

end

/-- The text of a document. -/
def render : Value → String
  | .object (m :: ms) => String.ofList (members 0 (m :: ms))
  | v => String.ofList ((member 0 v).drop 1)

end Yaml
end Walkthrough
