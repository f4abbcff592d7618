import Walkthrough.Power

/-!
# Walkthrough.Binary64.Basic

Binary floating point numbers of 64 bits, kept as their three fields. A finite number stands for
`± mantissa · 2 ^ scale`; every operation computes the exact result as a quotient of natural
numbers and rounds it once, to the nearest number and to the even one of two.

* `ofRatio` is the only place where rounding happens.
* `mantissa_lt` bounds the mantissa of every number.
-/

namespace Walkthrough

/-- A floating point number: sign, biased exponent and fraction. -/
structure Binary64 where
  negative : Bool
  exponent : Fin 2048
  fraction : Fin (twoTo 52)
deriving DecidableEq, Repr

namespace Binary64

/-- The fraction of the last 52 bits. -/
def lastBits (n : Nat) : Fin (twoTo 52) := ⟨n % twoTo 52, Nat.mod_lt n (twoTo_pos 52)⟩

/-- Zero with a sign. -/
def zero (negative : Bool) : Binary64 := ⟨negative, 0, lastBits 0⟩

/-- Infinity with a sign. -/
def infinity (negative : Bool) : Binary64 := ⟨negative, 2047, lastBits 0⟩

/-- The value that is no number. -/
def notNumber : Binary64 := ⟨false, 2047, lastBits (twoTo 51)⟩

instance : Inhabited Binary64 := ⟨zero false⟩

def isFinite (x : Binary64) : Bool := x.exponent != 2047

def isNaN (x : Binary64) : Bool := x.exponent == 2047 && x.fraction.val != 0

def isInfinite (x : Binary64) : Bool := x.exponent == 2047 && x.fraction.val == 0

def isZero (x : Binary64) : Bool := x.exponent == 0 && x.fraction.val == 0

/-- The integer `m` of the magnitude `m · 2 ^ scale`. -/
def mantissa (x : Binary64) : Nat :=
  if x.exponent = 0 then x.fraction.val else twoTo 52 + x.fraction.val

/-- The power of two that the mantissa is multiplied by. -/
def scale (x : Binary64) : Int :=
  if x.exponent = 0 then -1074 else (x.exponent.val : Int) - 1075

theorem mantissa_lt (x : Binary64) : x.mantissa < twoTo 53 := by
  have h := x.fraction.isLt
  have h53 : twoTo 53 = twoTo 52 * 2 := twoTo_succ 52
  unfold mantissa
  split <;> omega

theorem mantissa_ne_zero {x : Binary64} (h : x.isZero = false) : x.mantissa ≠ 0 := by
  have hpos := twoTo_pos 52
  simp only [isZero, Bool.and_eq_false_iff, beq_eq_false_iff_ne, ne_eq] at h
  unfold mantissa
  split
  · next hexp => exact h.resolve_left fun hne => hne hexp
  · omega

/-- The magnitude as a quotient; the denominator is positive. -/
def ratio (x : Binary64) : Nat × Nat :=
  if 0 ≤ x.scale then (x.mantissa * twoTo x.scale.toNat, 1)
  else (x.mantissa, twoTo (-x.scale).toNat)

theorem ratio_den_pos (x : Binary64) : 0 < x.ratio.2 := by
  unfold ratio
  split
  · exact Nat.one_pos
  · exact twoTo_pos _

theorem ratio_num_ne_zero {x : Binary64} (h : x.isZero = false) : x.ratio.1 ≠ 0 := by
  have hm := mantissa_ne_zero h
  unfold ratio
  split
  · exact Nat.mul_ne_zero hm (Nat.ne_of_gt (twoTo_pos _))
  · exact hm

/-- The integer nearest to `num / den`, the even one of two. -/
def roundDiv (num den : Nat) : Nat :=
  let q := num / den
  let r := num % den
  if 2 * r < den then q else if den < 2 * r then q + 1 else q + q % 2

/-- The integer nearest to `num / den`, the larger one of two. -/
def roundDivUp (num den : Nat) : Nat :=
  (2 * num + den) / (2 * den)

/-- The largest `e` with `2 ^ e ≤ num / den`, for positive `num` and `den`. -/
def floorLog2 (num den : Nat) : Int :=
  let guess : Int := (Nat.log2 num : Int) - (Nat.log2 den : Int)
  let fits := if 0 ≤ guess then den * twoTo guess.toNat ≤ num else den ≤ num * twoTo (-guess).toNat
  if fits then guess else guess - 1

/-- The number with the given mantissa and scale, where a mantissa of `2 ^ 53` carries over. -/
def assemble (negative : Bool) (m : Nat) (q : Int) : Binary64 :=
  let (m, q) := if m = twoTo 53 then (twoTo 52, q + 1) else (m, q)
  if m < twoTo 52 then ⟨negative, 0, lastBits m⟩
  else if 971 < q then infinity negative
  else ⟨negative, Fin.ofNat 2048 (q + 1075).toNat, lastBits (m - twoTo 52)⟩

/-- The number nearest to `num / den`, the one with even mantissa of two; a magnitude beyond the
largest finite number gives infinity. -/
def ofRatio (negative : Bool) (num den : Nat) : Binary64 :=
  if num = 0 then zero negative
  else
    let q := max (floorLog2 num den - 52) (-1074)
    let m := if 0 ≤ q then roundDiv num (den * twoTo q.toNat) else roundDiv (num * twoTo (-q).toNat) den
    assemble negative m q

def ofNat (n : Nat) : Binary64 := ofRatio false n 1

def negate (x : Binary64) : Binary64 := { x with negative := !x.negative }

/-- The product of two numbers; only finite factors are ever multiplied. -/
def mul (x y : Binary64) : Binary64 :=
  if x.isFinite && y.isFinite then
    ofRatio (x.negative != y.negative) (x.ratio.1 * y.ratio.1) (x.ratio.2 * y.ratio.2)
  else if x.isNaN || y.isNaN || x.isZero || y.isZero then notNumber
  else infinity (x.negative != y.negative)

/-- The quotient of two finite numbers, with the usual values where the divisor is zero. -/
def div (x y : Binary64) : Binary64 :=
  if x.isNaN || y.isNaN then notNumber
  else if y.isZero then
    if x.isZero then notNumber else infinity (x.negative != y.negative)
  else if x.isFinite && y.isFinite then
    ofRatio (x.negative != y.negative) (x.ratio.1 * y.ratio.2) (x.ratio.2 * y.ratio.1)
  else if x.isFinite then zero (x.negative != y.negative)
  else if y.isFinite then infinity (x.negative != y.negative)
  else notNumber

/-- The sum of two magnitudes. -/
def addMagnitudes (x y : Binary64) : Binary64 :=
  ofRatio false (x.ratio.1 * y.ratio.2 + y.ratio.1 * x.ratio.2) (x.ratio.2 * y.ratio.2)

/-- Is the number less than zero? Neither zero nor the value that is no number is. -/
def isBelowZero (x : Binary64) : Bool := x.negative && !x.isZero && !x.isNaN

/-- Is the number greater than zero? -/
def isAboveZero (x : Binary64) : Bool := !x.negative && !x.isZero && !x.isNaN

/-- The integer nearest to the magnitude, the larger one of two. -/
def roundMagnitude (x : Binary64) : Nat :=
  roundDivUp x.ratio.1 x.ratio.2

end Binary64
end Walkthrough
