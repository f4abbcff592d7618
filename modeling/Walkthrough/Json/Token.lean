import Walkthrough.Binary64.Reading
import Walkthrough.Json.Value
import Walkthrough.Power
import Walkthrough.Text.Hexadecimal

/-!
# Walkthrough.Json.Token

The tokens of a JSON text. A text is cut into tokens as far as its tokens are well formed; the
first malformed one ends the list.

A string token keeps its pieces, because a reader that skips the string asks less of it than one
that wants its characters: `Quoted.skip` minds the form only, `Quoted.text` also pairs surrogates.
In the same way a numeral stands for its digits until `Numeral.number` is asked for.

* `scan` reads the tokens of a text.
-/

namespace Walkthrough
namespace Json

/-- A piece of a string: a character, or sixteen bits written in hexadecimal. -/
inductive Piece where
  | plain (c : Char)
  | unit (n : Nat)
deriving DecidableEq, Repr

/-- How a string ends. -/
inductive QuoteEnd where
  | closed
  | endOfText
  | badHex
  | badEscape
  | control
deriving DecidableEq, Repr

/-- A string as written: its pieces and its end. -/
structure Quoted where
  pieces : List Piece
  ending : QuoteEnd
deriving DecidableEq, Repr

/-- A numeral as written: an integer part, digits behind a point, a power of ten. -/
structure Numeral where
  negative : Bool
  whole : List Char
  fraction : List Char
  power : Option (Bool × List Char)
deriving DecidableEq, Repr

inductive Token where
  | openList
  | closeList
  | openObject
  | closeObject
  | comma
  | colon
  | null
  | boolean (b : Bool)
  | numeral (n : Numeral)
  | string (q : Quoted)
  /-- The beginning of a word that is none of the three words. -/
  | brokenWord (fault : Fault)
  /-- The beginning of a numeral; a reader that skips it reports an invalid number. -/
  | brokenNumeral (fault : Fault)
  /-- A character that starts no token. -/
  | stray
deriving DecidableEq, Repr

/-- The blanks between tokens. -/
def isGap (c : Char) : Bool :=
  c = ' ' || c = '\n' || c = '\t' || c = '\r'

/-- Four hexadecimal digits. -/
def hex4? (a b c d : Char) : Option Nat :=
  Text.hexNumber? [a, b, c, d]

/-- The character that a letter behind a backslash stands for. -/
def escaped? (c : Char) : Option Char :=
  if c = '"' ∨ c = '\\' ∨ c = '/' then some c
  else if c = 'b' then some (Char.ofNat 0x08)
  else if c = 'f' then some (Char.ofNat 0x0C)
  else if c = 'n' then some '\n'
  else if c = 'r' then some '\r'
  else if c = 't' then some '\t'
  else none

/-- The number of bytes of the first four characters, which decides whether four bytes follow. -/
def bytesAhead (cs : List Char) : Nat :=
  (cs.take 4).foldl (fun n c => n + c.utf8Size) 0

/-- Read a string behind its opening quote: the string and what follows it. -/
def scanString : List Char → Quoted × List Char
  | [] => (⟨[], .endOfText⟩, [])
  | '"' :: cs => (⟨[], .closed⟩, cs)
  | '\\' :: [] => (⟨[], .endOfText⟩, [])
  | '\\' :: 'u' :: cs =>
    match cs with
    | a :: b :: c :: d :: rest =>
      match hex4? a b c d with
      | some n =>
        let (q, r) := scanString rest
        (⟨.unit n :: q.pieces, q.ending⟩, r)
      | none => (⟨[], .badHex⟩, [])
    | short => (⟨[], if 4 ≤ bytesAhead short then .badHex else .endOfText⟩, [])
  | '\\' :: e :: cs =>
    match escaped? e with
    | some c =>
      let (q, r) := scanString cs
      (⟨.plain c :: q.pieces, q.ending⟩, r)
    | none => (⟨[], .badEscape⟩, [])
  | c :: cs =>
    if c.toNat < 0x20 then (⟨[], .control⟩, [])
    else
      let (q, r) := scanString cs
      (⟨.plain c :: q.pieces, q.ending⟩, r)

/-- The complaint about the end of a string. -/
def QuoteEnd.fault? : QuoteEnd → Option Fault
  | .closed => none
  | .endOfText => some .endInString
  | .badHex => some .invalidEscape
  | .badEscape => some .invalidEscape
  | .control => some .controlCharacter

/-- What a reader complains about that skips the string. -/
def Quoted.skip (q : Quoted) : Except Fault Unit :=
  match q.ending.fault? with
  | none => .ok ()
  | some f => .error f

/-- The complaint when a leading surrogate is the last piece before the end of the string. -/
def QuoteEnd.faultAfterLead : QuoteEnd → Fault
  | .endOfText => .endInString
  | .badHex => .invalidEscape
  | _ => .missingSurrogate

/-- The characters of a row of pieces; surrogates have to come in pairs. -/
def pieceChars (ending : QuoteEnd) : List Piece → Except Fault (List Char)
  | [] =>
    match ending.fault? with
    | none => .ok []
    | some f => .error f
  | .plain c :: ps => do return c :: (← pieceChars ending ps)
  | .unit n :: ps =>
    if 0xDC00 ≤ n ∧ n ≤ 0xDFFF then .error .loneSurrogate
    else if 0xD800 ≤ n ∧ n ≤ 0xDBFF then
      match ps with
      | .unit m :: ps =>
        if 0xDC00 ≤ m ∧ m ≤ 0xDFFF then do
          let c := Char.ofNat (0x10000 + (n - 0xD800) * 0x400 + (m - 0xDC00))
          return c :: (← pieceChars ending ps)
        else .error .loneSurrogate
      | .plain _ :: _ => .error .missingSurrogate
      | [] => .error ending.faultAfterLead
    else do return Char.ofNat n :: (← pieceChars ending ps)

/-- The text that a string stands for. -/
def Quoted.text (q : Quoted) : Except Fault String :=
  (pieceChars q.ending q.pieces).map String.ofList

/-- Digits at the front of a text that has to start with one, for the fraction and the power. -/
def scanDigits (cs : List Char) : Except Fault (List Char × List Char) :=
  match cs with
  | [] => .error .endInValue
  | c :: _ =>
    if c.isDigit then .ok (cs.takeWhile Char.isDigit, cs.dropWhile Char.isDigit)
    else .error .invalidNumber

/-- The integer part: a single zero, or digits that start with none. -/
def scanWhole (cs : List Char) : Except Fault (List Char × List Char) :=
  match cs with
  | [] => .error .endInValue
  | '0' :: c :: r => if c.isDigit then .error .invalidNumber else .ok (['0'], c :: r)
  | ['0'] => .ok (['0'], [])
  | c :: _ =>
    if c.isDigit then .ok (cs.takeWhile Char.isDigit, cs.dropWhile Char.isDigit)
    else .error .invalidNumber

/-- The digits behind a point, if a point follows. -/
def scanFraction : List Char → Except Fault (List Char × List Char)
  | '.' :: cs => scanDigits cs
  | cs => .ok ([], cs)

/-- The power of ten, if one follows. -/
def scanPower : List Char → Except Fault (Option (Bool × List Char) × List Char)
  | [] => .ok (none, [])
  | c :: cs =>
    if c = 'e' ∨ c = 'E' then
      let (negative, ds) := match cs with
        | '-' :: r => (true, r)
        | '+' :: r => (false, r)
        | r => (false, r)
      (scanDigits ds).map fun (digits, r) => (some (negative, digits), r)
    else .ok (none, c :: cs)

/-- Read a numeral at the front of a text. -/
def scanNumeral (cs : List Char) : Except Fault (Numeral × List Char) := do
  let (negative, cs) := match cs with
    | '-' :: r => (true, r)
    | r => (false, r)
  let (whole, cs) ← scanWhole cs
  let (fraction, cs) ← scanFraction cs
  let (power, cs) ← scanPower cs
  return (⟨negative, whole, fraction, power⟩, cs)

/-- The rest of a text behind a word, where the word has begun with its first letter. -/
def afterWord : List Char → List Char → Except Fault (List Char)
  | [], cs => .ok cs
  | _ :: _, [] => .error .endInValue
  | w :: ws, c :: cs => if w = c then afterWord ws cs else .error .expectedWord

/-- The tokens of a text, with at most `fuel` of them. -/
def scanTokens : Nat → List Char → List Token
  | 0, _ => []
  | fuel + 1, cs =>
    match cs.dropWhile isGap with
    | [] => []
    | '[' :: r => .openList :: scanTokens fuel r
    | ']' :: r => .closeList :: scanTokens fuel r
    | '{' :: r => .openObject :: scanTokens fuel r
    | '}' :: r => .closeObject :: scanTokens fuel r
    | ',' :: r => .comma :: scanTokens fuel r
    | ':' :: r => .colon :: scanTokens fuel r
    | '"' :: r =>
      let (q, r) := scanString r
      .string q :: (if q.ending = .closed then scanTokens fuel r else [])
    | 'n' :: r =>
      match afterWord "ull".toList r with
      | .ok r => .null :: scanTokens fuel r
      | .error f => [.brokenWord f]
    | 't' :: r =>
      match afterWord "rue".toList r with
      | .ok r => .boolean true :: scanTokens fuel r
      | .error f => [.brokenWord f]
    | 'f' :: r =>
      match afterWord "alse".toList r with
      | .ok r => .boolean false :: scanTokens fuel r
      | .error f => [.brokenWord f]
    | c :: r =>
      if c = '-' ∨ c.isDigit then
        match scanNumeral (c :: r) with
        | .ok (n, r) => .numeral n :: scanTokens fuel r
        | .error f => [.brokenNumeral f]
      else [.stray]

/-- The tokens of a text. Each takes at least one character, so the length bounds their number. -/
def scan (s : String) : List Token :=
  scanTokens s.length s.toList

/-- The exponent digits as far as they fit in 31 bits, or the fact that they do not. -/
def powerValue? (digits : List Char) : Option Nat :=
  let n := Binary64.ofDigits digits
  if n < twoTo 31 then some n else none

/-- The leading digits that fit in 64 bits, and how many digits are left over. -/
def takeSignificand : Nat → List Char → Nat × List Char
  | n, [] => (n, [])
  | n, c :: cs =>
    let m := 10 * n + Binary64.digitValue c
    if m < twoTo 64 then takeSignificand m cs else (n, c :: cs)

/-- The significand and power of ten of a numeral: digits of the integer part that do not fit
raise the power, digits of the fraction that do not fit are dropped. -/
def Numeral.significand (n : Numeral) : Nat × Int :=
  let (a, restWhole) := takeSignificand 0 n.whole
  let (b, restFraction) := takeSignificand a n.fraction
  (b, (restWhole.length : Int) - ((n.fraction.length - restFraction.length : Nat) : Int))

/-- The number that a numeral stands for: an integer where it is written as one and fits. -/
def Numeral.number (n : Numeral) : Except Fault Number :=
  let (a, restWhole) := takeSignificand 0 n.whole
  if n.fraction.isEmpty && n.power.isNone && restWhole.isEmpty then
    if !n.negative then .ok (.natural a)
    else if a = 0 then .ok (.real (Binary64.zero true))
    else if a ≤ twoTo 63 then .ok (.negative a)
    else .ok (.real (Binary64.ofNat a).negate)
  else
    let (s, p) := n.significand
    let result := match n.power with
      | none => Binary64.scaled n.negative s p
      | some (down, digits) =>
        match powerValue? digits with
        | some e => Binary64.scaled n.negative s (if down then p - (e : Int) else p + (e : Int))
        | none => if s != 0 && !down then none else some (Binary64.zero n.negative)
    match result with
    | some x => .ok (.real x)
    | none => .error .numberOutOfRange

end Json
end Walkthrough
