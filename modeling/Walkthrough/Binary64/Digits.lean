import Walkthrough.Binary64.Basic
import Walkthrough.Power

/-!
# Walkthrough.Binary64.Digits

Decimal texts of floating point numbers: the fewest digits that read back, a fixed number of
places, and the two layouts in which they are written.

* `Shortest` holds the digits chosen for a number.
* `Layout` says where the point goes and when an exponent is written.
-/

namespace Walkthrough
namespace Binary64

/-- A positive decimal `digits · 10 ^ power`. -/
structure Shortest where
  digits : Nat
  power : Int
deriving DecidableEq, Repr

/-- A quotient of natural numbers times a power of ten. -/
def timesPowerOfTen (num den : Nat) (e : Int) : Nat × Nat :=
  if 0 ≤ e then (num * tenTo e.toNat, den) else (num, den * tenTo (-e).toNat)

/-- Twice the numbers halfway to the neighbours below and above, over one denominator. The gap
below a power of two is half as wide. -/
def neighbourhood (x : Binary64) : Nat × Nat × Nat :=
  let m := x.mantissa
  let narrow := x.fraction.val = 0 && 1 < x.exponent.val
  let low := if narrow then 4 * m - 1 else 4 * m - 2
  let high := 4 * m + 2
  if 0 ≤ x.scale then (low * twoTo x.scale.toNat, high * twoTo x.scale.toNat, 4)
  else (low, high, 4 * twoTo (-x.scale).toNat)

/-- Does `d · 10 ^ p` read back as `x`? The ends of the interval belong to an even mantissa. -/
def readsBack (x : Binary64) (d : Nat) (p : Int) : Bool :=
  let (low, high, den) := x.neighbourhood
  let (num, den') := timesPowerOfTen d 1 p
  let value := num * den
  if x.mantissa % 2 = 0 then low * den' ≤ value && value ≤ high * den'
  else low * den' < value && value < high * den'

/-- The largest `e` with `10 ^ e ≤ num / den`, searched downwards from a bound above it. -/
def floorLog10From (num den : Nat) : Nat → Int → Int
  | 0, e => e
  | fuel + 1, e =>
    let (n, d) := timesPowerOfTen num den (-e)
    if d ≤ n then e else floorLog10From num den fuel (e - 1)

/-- The largest `e` with `10 ^ e ≤ num / den`. -/
def floorLog10 (num den : Nat) : Int :=
  let e := floorLog2 num den
  let guess := e * 30103 / 100000 + 2
  floorLog10From num den 4 guess

/-- The decimal with `n` digits next to `x` that reads back, if there is one: of the two
neighbours on the grid the nearer one, the even one of two. -/
def onGrid (x : Binary64) (n : Nat) : Option Shortest :=
  let (num, den) := x.ratio
  let p := floorLog10 num den - (n : Int) + 1
  let (a, b) := timesPowerOfTen num den (-p)
  let low := a / b
  let high := low + 1
  let rest := a % b
  let lowFits := x.readsBack low p
  let highFits := rest != 0 && x.readsBack high p
  let nearLow := 2 * rest < b || (2 * rest = b && low % 2 = 0)
  if lowFits && (nearLow || !highFits) then some ⟨low, p⟩
  else if highFits then some ⟨high, p⟩
  else none

/-- Search the grids of `n`, `n + 1`, … digits. -/
def searchGrids (x : Binary64) : Nat → Nat → Shortest
  | 0, _ => ⟨x.ratio.1, 0⟩
  | fuel + 1, n =>
    match x.onGrid n with
    | some s => s
    | none => searchGrids x fuel (n + 1)

/-- Drop zeros at the end of the digits. -/
def dropZeros : Nat → Nat → Int → Shortest
  | 0, d, p => ⟨d, p⟩
  | fuel + 1, d, p => if d % 10 = 0 && d != 0 then dropZeros fuel (d / 10) (p + 1) else ⟨d, p⟩

/-- The fewest digits that read back, for a finite number other than zero. -/
def shortest (x : Binary64) : Shortest :=
  let s := x.searchGrids 17 1
  dropZeros 20 s.digits s.power

/-- Insert a point so that `places` digits stand behind it. -/
def withPoint (digits : String) (places : Nat) : String :=
  let cs := digits.toList
  let cs := List.replicate (places + 1 - cs.length) '0' ++ cs
  let whole := cs.take (cs.length - places)
  let part := cs.drop (cs.length - places)
  if part.isEmpty then String.ofList whole
  else String.ofList (whole ++ '.' :: part)

/-- Digits and power of ten, written without an exponent. -/
def positional (s : Shortest) : String :=
  if 0 ≤ s.power then Nat.repr s.digits ++ String.ofList (List.replicate s.power.toNat '0')
  else withPoint (Nat.repr s.digits) (-s.power).toNat

/-- Digits and power of ten, one digit before the point, then the exponent. -/
def scientific (plus : Bool) (s : Shortest) : String :=
  let cs := (Nat.repr s.digits).toList
  let e := s.power + (cs.length : Int) - 1
  let fractionPart := cs.drop 1
  let body := String.ofList (cs.take 1) ++
    (if fractionPart.isEmpty then "" else "." ++ String.ofList fractionPart)
  let sign := if e < 0 then "-" else if plus then "+" else ""
  body ++ "e" ++ sign ++ Nat.repr e.natAbs

def signText (x : Binary64) : String := if x.negative then "-" else ""

/-- The plain text of a number: shortest digits, never an exponent, no point for an integer. -/
def plain (x : Binary64) : String :=
  if x.isNaN then "NaN"
  else if x.isInfinite then x.signText ++ "inf"
  else if x.isZero then x.signText ++ "0"
  else x.signText ++ positional x.shortest

/-- How a number is written where documents hold it. -/
structure Layout where
  /-- Is a plus sign written before an exponent that is not negative? -/
  plus : Bool
  notNumber : String
  infinite : String

/-- Shortest digits with a point or an exponent: positional while the first digit stands at a
power of ten from `-5` to `15`, and then never without a digit behind the point. -/
def written (layout : Layout) (x : Binary64) : String :=
  if x.isNaN then layout.notNumber
  else if x.isInfinite then x.signText ++ layout.infinite
  else if x.isZero then x.signText ++ "0.0"
  else
    let s := x.shortest
    let top := s.power + ((Nat.repr s.digits).length : Int) - 1
    if -5 ≤ top ∧ top ≤ 15 then
      x.signText ++ positional s ++ (if 0 ≤ s.power then ".0" else "")
    else x.signText ++ scientific layout.plus s

/-- The text of a number with exactly `places` digits behind the point, rounded from the exact
value, to the even digit of two. -/
def fixed (places : Nat) (x : Binary64) : String :=
  if x.isNaN then "NaN"
  else if x.isInfinite then x.signText ++ "inf"
  else
    let (num, den) := x.ratio
    x.signText ++ withPoint (Nat.repr (roundDiv (num * tenTo places) den)) places

end Binary64
end Walkthrough
