import Walkthrough.Binary64.Basic
import Walkthrough.Power
import Walkthrough.Text.Search

/-!
# Walkthrough.Binary64.Reading

Numbers read from decimal texts. `ofDecimal` gives the nearest number; `scaled` gives the number
that one multiplication or division by a power of ten yields, which may be the neighbour of the
nearest one.

* `Decimal` is the grammar of a decimal text, `Decimal.read?` its reader.
* `parse?` also reads the names of infinity and of the value that is no number.
-/

namespace Walkthrough
namespace Binary64

/-- The number nearest to `digits · 10 ^ power`. A magnitude that is certainly too large or too
small is decided by the number of digits, so that no huge power is ever computed. -/
def ofDecimal (negative : Bool) (digits : Nat) (power : Int) : Binary64 :=
  let top := ((Nat.repr digits).length : Int) + power
  if digits = 0 then zero negative
  else if 400 < top then infinity negative
  else if top < -400 then zero negative
  else if 0 ≤ power then ofRatio negative (digits * tenTo power.toNat) 1
  else ofRatio negative digits (tenTo (-power).toNat)

/-- The number nearest to a power of ten. -/
def powerOfTen (e : Nat) : Binary64 := ofDecimal false 1 e

/-- A significand below `2 ^ 64` times a power of ten, computed in two roundings: the significand
is rounded first, then multiplied or divided by a rounded power of ten, of which `10 ^ 308` is the
largest. There is no answer when the result is too large. -/
def scaled (negative : Bool) (significand : Nat) (power : Int) : Option Binary64 :=
  let f := ofNat significand
  let signed (x : Binary64) : Binary64 := { x with negative := negative }
  if 0 ≤ power then
    if power ≤ 308 then
      let product := f.mul (powerOfTen power.toNat)
      if product.isFinite then some (signed product) else none
    else if f.isZero then some (signed f) else none
  else
    let k := (-power).toNat
    if k ≤ 308 then some (signed (f.div (powerOfTen k)))
    else if k ≤ 616 then some (signed ((f.div (powerOfTen 308)).div (powerOfTen (k - 308))))
    else some (zero negative)

/-- The value of a decimal digit. -/
def digitValue (c : Char) : Nat := c.toNat - '0'.toNat

/-- The natural number that a row of digits stands for. -/
def ofDigits (cs : List Char) : Nat :=
  cs.foldl (fun n c => 10 * n + digitValue c) 0

/-- An unsigned decimal text: digits, a fraction, a power of ten. -/
structure Decimal where
  whole : List Char
  fraction : List Char
  power : Int
deriving DecidableEq, Repr

/-- Is there a minus in front? With it, what stands behind the sign, or all when there is none. -/
def cutSign : List Char → Bool × List Char
  | '-' :: cs => (true, cs)
  | '+' :: cs => (false, cs)
  | cs => (false, cs)

/-- A power of ten as written behind the letter: a sign or none, then at least one digit. -/
def Decimal.readPower? (cs : List Char) : Option Int :=
  let (negative, ds) := cutSign cs
  if ds.isEmpty || !ds.all Char.isDigit then none
  else some (if negative then -(ofDigits ds : Int) else (ofDigits ds : Int))

/-- The digits behind a point, none without a point, and what follows them. -/
def cutFraction : List Char → List Char × List Char
  | '.' :: cs => (cs.takeWhile Char.isDigit, cs.dropWhile Char.isDigit)
  | cs => ([], cs)

/-- Read digits with at most one point, at least one digit, and an optional power of ten. -/
def Decimal.read? (cs : List Char) : Option Decimal :=
  let whole := cs.takeWhile Char.isDigit
  let (fraction, r) := cutFraction (cs.dropWhile Char.isDigit)
  if whole.isEmpty && fraction.isEmpty then none
  else match r with
    | [] => some ⟨whole, fraction, 0⟩
    | c :: r =>
      if c = 'e' ∨ c = 'E' then (readPower? r).map fun p => ⟨whole, fraction, p⟩ else none

/-- The number nearest to a decimal text. -/
def Decimal.nearest (negative : Bool) (d : Decimal) : Binary64 :=
  ofDecimal negative (ofDigits (d.whole ++ d.fraction)) (d.power - (d.fraction.length : Int))

/-- Read a number: an optional sign, then a decimal text or a name in letters of either case. -/
def parse? (s : String) : Option Binary64 :=
  let (negative, cs) := cutSign s.toList
  let name := cs.map Char.toLower
  if name = "nan".toList then some { notNumber with negative := negative }
  else if name = "inf".toList ∨ name = "infinity".toList then some (infinity negative)
  else (Decimal.read? cs).map (·.nearest negative)

end Binary64

/-- Read a natural number below `bound`: an optional plus sign and at least one digit. -/
def readNatural? (bound : Nat) (s : String) : Option Nat :=
  let cs := match s.toList with
    | '+' :: r => r
    | r => r
  if cs.isEmpty || !cs.all Char.isDigit then none
  else
    let n := Binary64.ofDigits cs
    if n < bound then some n else none

end Walkthrough
