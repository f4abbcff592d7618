/-!
# Walkthrough.Text.Base64

Bytes as letters, digits, plus signs and slashes, six bits to a character, filled up with equals
signs.

* `encode` writes bytes; `decode` accepts the one spelling that `encode` gives, and says where
  another one departs from it.
-/

namespace Walkthrough
namespace Text
namespace Base64

/-- The character for six bits. -/
def symbol (n : Nat) : Char :=
  if n < 26 then Char.ofNat ('A'.toNat + n)
  else if n < 52 then Char.ofNat ('a'.toNat + (n - 26))
  else if n < 62 then Char.ofNat ('0'.toNat + (n - 52))
  else if n = 62 then '+'
  else '/'

/-- The six bits of a character. -/
def bits? (c : Char) : Option Nat :=
  if c.isUpper then some (c.toNat - 'A'.toNat)
  else if c.isLower then some (c.toNat - 'a'.toNat + 26)
  else if c.isDigit then some (c.toNat - '0'.toNat + 52)
  else if c = '+' then some 62
  else if c = '/' then some 63
  else none

/-- Write groups of three bytes; only the last may be filled up. -/
def encodeInto (out : String) : List UInt8 → String
  | [] => out
  | [a] =>
    let n := a.toNat * 16
    (((out.push (symbol (n / 64))).push (symbol (n % 64))).push '=').push '='
  | [a, b] =>
    let n := (a.toNat * 256 + b.toNat) * 4
    (((out.push (symbol (n / 4096))).push (symbol (n / 64 % 64))).push (symbol (n % 64))).push '='
  | a :: b :: c :: rest =>
    let n := (a.toNat * 256 + b.toNat) * 256 + c.toNat
    encodeInto ((((out.push (symbol (n / 262144))).push (symbol (n / 4096 % 64))).push
      (symbol (n / 64 % 64))).push (symbol (n % 64))) rest

def encode (bytes : ByteArray) : String := encodeInto "" bytes.toList

/-- Why a text is no encoding of bytes. -/
inductive Fault where
  | symbol (code offset : Nat)
  | length (length : Nat)
  | lastSymbol (code offset : Nat)
  | padding
deriving DecidableEq, Repr

def Fault.message : Fault → String
  | .symbol code offset =>
    "Invalid symbol " ++ Nat.repr code ++ ", offset " ++ Nat.repr offset ++ "."
  | .length n => "Invalid input length: " ++ Nat.repr n
  | .lastSymbol code offset =>
    "Invalid last symbol " ++ Nat.repr code ++ ", offset " ++ Nat.repr offset ++ "."
  | .padding => "Invalid padding"

/-- The bits of a byte of the text. -/
def bitsOfByte? (b : UInt8) : Option Nat := bits? (Char.ofNat b.toNat)

/-- The equals sign that fills up. -/
def filler : UInt8 := 0x3D

/-- Is the byte one that stands for six bits? -/
def isSymbol (b : UInt8) : Bool := (bitsOfByte? b).isSome

/-- The complaint about what is left when a text is cut off in a group. -/
def cutOff (offset : Nat) : List UInt8 → Fault
  | [a] => if isSymbol a then .length (offset + 1) else .symbol a.toNat offset
  | [a, b] =>
    if !isSymbol a then .symbol a.toNat offset
    else if !isSymbol b then .symbol b.toNat (offset + 1)
    else .padding
  | [a, b, c] =>
    if !isSymbol a then .symbol a.toNat offset
    else if !isSymbol b then .symbol b.toNat (offset + 1)
    else if !isSymbol c && c != filler then .symbol c.toNat (offset + 2)
    else .padding
  | _ => .padding

/-- Decode groups of four, from the given offset on; only the last may be filled up, and only with
bits that are zero before. -/
def decodeInto (out : ByteArray) (offset : Nat) : List UInt8 → Except Fault ByteArray
  | [] => .ok out
  | a :: b :: c :: d :: rest =>
    match bitsOfByte? a, bitsOfByte? b with
    | none, _ => .error (.symbol a.toNat offset)
    | _, none => .error (.symbol b.toNat (offset + 1))
    | some x, some y =>
      let out := out.push (x * 4 + y / 16).toUInt8
      if c = filler ∧ d = filler ∧ rest = [] then
        if y % 16 = 0 then .ok out else .error (.lastSymbol b.toNat (offset + 1))
      else
        match bitsOfByte? c with
        | none => .error (.symbol c.toNat (offset + 2))
        | some z =>
          let out := out.push (y % 16 * 16 + z / 4).toUInt8
          if d = filler ∧ rest = [] then
            if z % 4 = 0 then .ok out else .error (.lastSymbol c.toNat (offset + 2))
          else
            match bitsOfByte? d with
            | none => .error (.symbol d.toNat (offset + 3))
            | some w => decodeInto (out.push (z % 4 * 64 + w).toUInt8) (offset + 4) rest
  | rest => .error (cutOff offset rest)

/-- A single byte after the last group, if that is what is left. -/
def straggler? (bytes : List UInt8) : Option UInt8 :=
  if bytes.length % 4 = 1 then bytes.getLast? else none

/-- The bytes of a text. A single last byte that can be no part of it is complained about before
anything else. -/
def decode (s : String) : Except Fault ByteArray :=
  let bytes := s.toUTF8.toList
  match straggler? bytes with
  | none => decodeInto ByteArray.empty 0 bytes
  | some b =>
    if isSymbol b || b = filler then decodeInto ByteArray.empty 0 bytes
    else .error (.symbol b.toNat (bytes.length - 1))

end Base64
end Text
end Walkthrough
