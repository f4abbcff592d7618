import Walkthrough.Binary64.Reading
import Walkthrough.Power
import Walkthrough.Text.Lowercase
import Walkthrough.Url.Encoding
import Walkthrough.Url.Fault
import Walkthrough.Url.Punycode

/-!
# Walkthrough.Url.Host

The hosts of addresses: domains in ASCII form, addresses of four bytes and of eight words.

* `domain?` brings a domain into its ASCII form, label by label.
* `host?` decides which kind of host a text is, and writes it in its normal form.
-/

namespace Walkthrough
namespace Url

/-- Characters that no domain may hold. -/
def forbiddenInDomain (c : Char) : Bool :=
  c.toNat ≤ 0x20 || c.toNat = 0x7F
    || ['%', '#', '/', ':', '<', '>', '?', '@', '[', '\\', ']', '^', '|'].contains c

/-- Characters that a domain drops: soft hyphens, joiners of no width, selectors of variants. -/
def ignoredInDomain (c : Char) : Bool :=
  let n := c.toNat
  n = 0xAD || n = 0x200B || n = 0x2060 || n = 0xFEFF || n = 0x34F || (0xFE00 ≤ n && n ≤ 0xFE0F)
    || (0x180B ≤ n && n ≤ 0x180D)

/-- The normal form of a character of a domain: small letters, dots and ASCII characters in place
of their wide forms. -/
def domainChar (c : Char) : List Char :=
  if ignoredInDomain c then []
  else
    let n := c.toNat
    if n = 0x3002 ∨ n = 0xFF0E ∨ n = 0xFF61 then ['.']
    else if 0xFF01 ≤ n ∧ n ≤ 0xFF5E then [(Char.ofNat (n - 0xFEE0)).toLower]
    else if n = 0x1E9E then ['ß']
    else if n = 0x130 then ['i', Char.ofNat 0x307]
    else if n < 0x80 then [c.toLower]
    else [Char.ofNat (Text.lowerPoint n)]

/-- May a character beyond ASCII stand in a label? -/
def allowedInLabel (c : Char) : Bool :=
  c.toNat < 0x80 || !Text.inRanges Text.unprintable c.toNat || c.toNat = 0x200C || c.toNat = 0x200D

/-- A label beyond ASCII is in normal form, allowed, and starts with no combining mark. -/
def goodLabel (cs : List Char) : Bool :=
  cs.all allowedInLabel && !cs.any forbiddenInDomain && decide (cs.flatMap domainChar = cs)
    && match cs with
      | [] => true
      | c :: _ => !Text.inRanges Text.extending c.toNat

/-- The ASCII form of a label. -/
def label? (cs : List Char) : Option (List Char) :=
  if cs.take 4 = "xn--".toList then
    match Punycode.decode? (cs.drop 4) with
    | some u =>
      if goodLabel u && u.any (0x80 ≤ ·.toNat) && decide (Punycode.encode u = cs.drop 4) then some cs
      else none
    | none => none
  else if cs.all (·.toNat < 0x80) then some cs
  else if goodLabel cs then some ("xn--".toList ++ Punycode.encode cs)
  else none

/-- The ASCII form of a domain. -/
def domain? (cs : List Char) : Option (List Char) :=
  let cs := cs.flatMap domainChar
  if cs.any forbiddenInDomain then none
  else ((Text.splitAll '.' cs).mapM label?).map fun ls => List.intercalate ['.'] ls

/-- A part of an address of four bytes: hexadecimal behind `0x`, octal behind `0`, else decimal.
The inner `none` stands for a number that is too large. -/
def ipv4Number? (cs : List Char) : Option (Option Nat) :=
  let read (base : Nat) (ok : Char → Bool) (ds : List Char) : Option (Option Nat) :=
    if ds.isEmpty then some (some 0)
    else if ds.all ok then
      let n := ds.foldl (fun n c => base * n + (Text.hexValue? c).getD 0) 0
      some (if n < twoTo 32 then some n else none)
    else none
  match cs with
  | [] => none
  | '0' :: 'x' :: ds => read 16 (fun c => (Text.hexValue? c).isSome) ds
  | '0' :: 'X' :: ds => read 16 (fun c => (Text.hexValue? c).isSome) ds
  | '0' :: d :: ds => read 8 (fun c => '0' ≤ c ∧ c ≤ '7') (d :: ds)
  | ds => read 10 Char.isDigit ds

/-- Does a domain end in a number, so that it can only be an address of four bytes? -/
def endsInNumber (cs : List Char) : Bool :=
  let last? := match (Text.splitAll '.' cs).reverse with
    | [] => none
    | [] :: last :: _ => some last
    | [] :: [] => none
    | last :: _ => some last
  match last? with
  | none => false
  | some last => (!last.isEmpty && last.all Char.isDigit) || (ipv4Number? last).isSome

/-- An address of four bytes from its parts, of which the last one fills what is left. -/
def ipv4? (cs : List Char) : Option Nat := do
  let parts := Text.splitAll '.' cs
  let parts := if parts.getLast? = some [] then parts.dropLast else parts
  if 4 < parts.length then none
  else
    let numbers ← parts.mapM fun p => do (← ipv4Number? p)
    let last ← numbers.getLast?
    let front := numbers.dropLast
    if front.any (255 < ·) || twoTo (32 - 8 * front.length) ≤ last then none
    else
      let high := front.zipIdx.foldl (fun n p => n + p.1 * twoTo (8 * (3 - p.2))) 0
      some (high + last)

/-- An address of four bytes in its normal form. -/
def ipv4Text (n : Nat) : List Char :=
  let part (k : Nat) := Nat.repr (n / twoTo (8 * k) % 256)
  (part 3 ++ "." ++ part 2 ++ "." ++ part 1 ++ "." ++ part 0).toList

/-- The four bytes at the end of an address of eight words, as two words. -/
def ipv6Tail? (cs : List Char) : Option (List Nat) := do
  let parts ← (Text.splitAll '.' cs).mapM fun ds => do
    if ds.isEmpty || !ds.all Char.isDigit || 3 < ds.length then none
    else if ds.length ≠ 1 ∧ ds.head? = some '0' then none
    else
      let n := Binary64.ofDigits ds
      if n ≤ 255 then some n else none
  match parts with
  | [a, b, c, d] => some [256 * a + b, 256 * c + d]
  | _ => none

/-- A word of at most four hexadecimal digits; an empty one is allowed before a point only. -/
def ipv6Word? (ds : List Char) : Option Nat :=
  if 4 < ds.length || !ds.all (fun c => (Text.hexValue? c).isSome) then none
  else some (ds.foldl (fun n c => 16 * n + (Text.hexValue? c).getD 0) 0)

/-- The words of one side of an address of eight words; four bytes may end it. -/
def ipv6Side? (cs : List Char) : Option (List Nat) :=
  if cs.isEmpty then some []
  else
    let parts := Text.splitAll ':' cs
    match parts.getLast? with
    | none => none
    | some last =>
      let word (ds : List Char) : Option Nat := if ds.isEmpty then none else ipv6Word? ds
      if last.contains '.' then do
        return (← parts.dropLast.mapM word) ++ (← ipv6Tail? last)
      else parts.mapM word

/-- Cut at the first pair of colons. -/
def splitDoubleColon : List Char → Option (List Char × List Char)
  | [] => none
  | ':' :: ':' :: cs => some ([], cs)
  | c :: cs => (splitDoubleColon cs).map fun p => (c :: p.1, p.2)

/-- The eight words of an address; a pair of colons stands for one or more words of zero. -/
def ipv6? (cs : List Char) : Option (List Nat) :=
  match splitDoubleColon cs with
  | none => do
    let ws ← ipv6Side? cs
    if ws.length = 8 && !cs.isEmpty then some ws else none
  | some (a, b) => do
    if a.contains '.' then none
    else
      let ws ← ipv6Side? a
      let vs ← ipv6Side? b
      if 8 ≤ ws.length + vs.length then none
      else some (ws ++ List.replicate (8 - ws.length - vs.length) 0 ++ vs)

/-- The number of zeros at the front of a list. -/
def leadingZeros (ws : List Nat) : Nat := (ws.takeWhile (· = 0)).length

/-- The first longest run of at least two zeros: its start and its length. -/
def zeroRun (ws : List Nat) : Option (Nat × Nat) :=
  let runs := (List.range ws.length).map fun i => (i, leadingZeros (ws.drop i))
  runs.foldl (fun best r =>
    let known := match best with
      | none => 1
      | some b => b.2
    if known < r.2 then some r else best) none

/-- An address of eight words in its normal form, between brackets. -/
def ipv6Text (ws : List Nat) : List Char :=
  let side (vs : List Nat) := String.intercalate ":" (vs.map fun w => String.ofList (Text.hex w))
  let body := match zeroRun ws with
    | none => side ws
    | some (i, n) => side (ws.take i) ++ "::" ++ side (ws.drop (i + n))
  '[' :: (body.toList ++ [']'])

/-- An address of eight words in brackets. -/
def bracketed? (cs : List Char) : Except Fault (List Char) :=
  if cs.getLast? = some ']' then
    match ipv6? (cs.drop 1).dropLast with
    | some ws => .ok (ipv6Text ws)
    | none => .error .invalidIpv6
  else .error .invalidIpv6

/-- The host of a web address in its normal form. -/
def host? (cs : List Char) : Except Fault (List Char) :=
  if cs.head? = some '[' then bracketed? cs
  else
    match String.fromUTF8? (ByteArray.mk (decodeBytes cs).toArray) with
    | none => .error .invalidDomain
    | some s =>
      match domain? s.toList with
      | none => .error .invalidDomain
      | some [] => .error .emptyHost
      | some d =>
        if endsInNumber d then
          match ipv4? d with
          | some n => .ok (ipv4Text n)
          | none => .error .invalidIpv4
        else .ok d

/-- Characters that the host of an address of another scheme may not hold. -/
def forbiddenInHost (c : Char) : Bool :=
  ['\x00', '\t', '\n', '\r', ' ', '#', '/', ':', '<', '>', '?', '@', '[', '\\', ']', '^', '|'].contains c

/-- The host of an address of another scheme. -/
def opaqueHost? (cs : List Char) : Except Fault (List Char) :=
  if cs.head? = some '[' then bracketed? cs
  else if cs.any forbiddenInHost then .error .invalidDomainCharacter
  else .ok (encode isControl cs)

end Url
end Walkthrough
