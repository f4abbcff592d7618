import Walkthrough.Text.Hexadecimal

/-!
# Walkthrough.Url.Encoding

Percent encoding. A part of an address has a set of ASCII characters that are written as escapes
there; every character beyond ASCII is written as the escapes of its bytes.

* `encode` writes the escapes of a part, `decodeBytes` reads all of them.
-/

namespace Walkthrough
namespace Url

/-- The ASCII control characters. -/
def isControl (c : Char) : Bool := c.toNat < 0x20 || c.toNat = 0x7F

/-- Escaped in a fragment. -/
def inFragmentSet (c : Char) : Bool :=
  isControl c || [' ', '"', '<', '>', '\x60'].contains c

/-- Escaped in a path. -/
def inPathSet (c : Char) : Bool :=
  inFragmentSet c || ['#', '?', '{', '}'].contains c

/-- Escaped in a name or a password. -/
def inCredentialSet (c : Char) : Bool :=
  inPathSet c || ['/', ':', ';', '=', '@', '[', '\\', ']', '^', '|'].contains c

/-- Escaped in a query. -/
def inQuerySet (c : Char) : Bool :=
  isControl c || [' ', '"', '#', '<', '>'].contains c

/-- Escaped in the query of a web address. -/
def inSpecialQuerySet (c : Char) : Bool :=
  inQuerySet c || c = '\''

def hexDigit (n : Nat) : Char :=
  if n < 10 then Char.ofNat (0x30 + n) else Char.ofNat (0x41 + n - 10)

/-- The escape of a byte. -/
def escapeByte (b : UInt8) : List Char :=
  ['%', hexDigit (b.toNat / 16), hexDigit (b.toNat % 16)]

/-- The bytes of a character. -/
def charBytes (c : Char) : List UInt8 := (String.singleton c).toUTF8.toList

/-- A character in a part with the given set. -/
def encodeChar (set : Char → Bool) (c : Char) : List Char :=
  if 0x80 ≤ c.toNat || set c then (charBytes c).flatMap escapeByte else [c]

def encode (set : Char → Bool) (cs : List Char) : List Char :=
  cs.flatMap (encodeChar set)

/-- The bytes of a text in which escapes stand for bytes; a percent sign that starts no escape
stands for itself. -/
def decodeBytes : List Char → List UInt8
  | [] => []
  | '%' :: a :: b :: cs =>
    match Text.hexValue? a, Text.hexValue? b with
    | some x, some y => UInt8.ofNat (16 * x + y) :: decodeBytes cs
    | _, _ => UInt8.ofNat 0x25 :: decodeBytes (a :: b :: cs)
  | c :: cs => charBytes c ++ decodeBytes cs

end Url
end Walkthrough
