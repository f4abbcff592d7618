/-!
# Walkthrough.Url.Punycode

Labels beyond ASCII written in ASCII: the basic characters first, then for each other character
the distance from the one before in the order of code points, as digits of base 36 with moving
thresholds.

* `encode` and `decode?` are the two directions; neither needs a bound on its steps, because the
  distance shrinks or the text does.
-/

namespace Walkthrough
namespace Url
namespace Punycode

def digitChar (d : Nat) : Char :=
  if d < 26 then Char.ofNat (0x61 + d) else Char.ofNat (0x30 + d - 26)

def digitValue? (c : Char) : Option Nat :=
  if 'a' ≤ c ∧ c ≤ 'z' then some (c.toNat - 0x61)
  else if 'A' ≤ c ∧ c ≤ 'Z' then some (c.toNat - 0x41)
  else if c.isDigit then some (c.toNat - 0x30 + 26)
  else none

/-- The threshold of the digit at weight `k`. -/
def threshold (k bias : Nat) : Nat :=
  if k ≤ bias then 1 else if bias + 26 ≤ k then 26 else k - bias

theorem one_le_threshold (k bias : Nat) : 1 ≤ threshold k bias := by
  unfold threshold
  split
  · omega
  · split <;> omega

theorem threshold_le (k bias : Nat) : threshold k bias ≤ 26 := by
  unfold threshold
  split
  · omega
  · split <;> omega

/-- Divide until the distance is small, counting the weight. -/
def settle (delta k : Nat) : Nat :=
  if 455 < delta then settle (delta / 35) (k + 36) else k + 36 * delta / (delta + 38)
termination_by delta
decreasing_by exact Nat.div_lt_self (by omega) (by omega)

/-- The bias after a distance has been written. -/
def adapt (delta count : Nat) (first : Bool) : Nat :=
  let d := if first then delta / 700 else delta / 2
  settle (d + d / count) 0

/-- The digits of a distance. -/
def writeDistance (bias k q : Nat) : List Char :=
  let t := threshold k bias
  if q < t then [digitChar q]
  else digitChar (t + (q - t) % (36 - t)) :: writeDistance bias (k + 36) ((q - t) / (36 - t))
termination_by q
decreasing_by
  have h1 := one_le_threshold k bias
  have h2 := threshold_le k bias
  calc (q - threshold k bias) / (36 - threshold k bias)
      ≤ q - threshold k bias := Nat.div_le_self _ _
    _ < q := by omega

/-- What is known between two characters: the text so far, the running distance, the bias and the
number of characters placed. -/
structure Progress where
  out : List Char
  delta : Nat
  bias : Nat
  placed : Nat

/-- Pass over one character while the characters of code point `m` are being placed. -/
def Progress.pass (basic m : Nat) (p : Progress) (c : Char) : Progress :=
  if c.toNat < m then { p with delta := p.delta + 1 }
  else if c.toNat = m then
    { out := p.out ++ writeDistance p.bias 36 p.delta, delta := 0,
      bias := adapt p.delta (p.placed + 1) (p.placed == basic), placed := p.placed + 1 }
  else p

/-- Place the code points of a list in ascending order; `n` is the next one to be considered. -/
def place (input : List Char) (basic : Nat) : List Nat → Nat → Progress → Progress
  | [], _, p => p
  | m :: rest, n, p =>
    let p := { p with delta := p.delta + (m - n) * (p.placed + 1) }
    let p := input.foldl (Progress.pass basic m) p
    place input basic rest (m + 1) { p with delta := p.delta + 1 }

/-- Insert into an ascending list without repetition. -/
def insertPoint (x : Nat) : List Nat → List Nat
  | [] => [x]
  | y :: ys => if x < y then x :: y :: ys else if x = y then y :: ys else y :: insertPoint x ys

/-- The ASCII form of a label, without the mark in front. -/
def encode (input : List Char) : List Char :=
  let basic := input.filter fun c => c.toNat < 0x80
  let points := ((input.filter fun c => 0x80 ≤ c.toNat).map Char.toNat).foldr insertPoint []
  basic ++ (if basic.isEmpty then [] else ['-'])
    ++ (place input basic.length points 128 ⟨[], 0, 72, basic.length⟩).out

/-- Read the digits of a distance: the new position and the rest of the text. -/
def readDistance (bias : Nat) : List Char → Nat → Nat → Nat → Option (Nat × List Char)
  | [], _, _, _ => none
  | c :: rest, k, w, i =>
    match digitValue? c with
    | none => none
    | some d =>
      if d < threshold k bias then some (i + d * w, rest)
      else readDistance bias rest (k + 36) (w * (36 - threshold k bias)) (i + d * w)

theorem length_of_readDistance {bias : Nat} {cs : List Char} {k w i : Nat}
    {r : Nat × List Char} (h : readDistance bias cs k w i = some r) :
    r.2.length < cs.length := by
  induction cs generalizing k w i with
  | nil => simp [readDistance] at h
  | cons c rest ih =>
    rw [readDistance] at h
    split at h
    · cases h
    · split at h
      · rw [← Option.some.inj h]
        exact Nat.lt_succ_self _
      · exact Nat.lt_succ_of_lt (ih h)

/-- Insert the characters whose distances follow. -/
def insertAll (out : List Char) (n i bias : Nat) (cs : List Char) : Option (List Char) :=
  if cs.isEmpty then some out
  else
    match _h : readDistance bias cs 36 1 i with
    | none => none
    | some (j, rest) =>
      let count := out.length + 1
      let m := n + j / count
      let pos := j % count
      if m < 0x110000 && !(0xD800 ≤ m && m < 0xE000) then
        insertAll (out.take pos ++ Char.ofNat m :: out.drop pos) m (pos + 1)
          (adapt (j - i) count (i = 0)) rest
      else none
termination_by cs.length
decreasing_by exact length_of_readDistance _h

/-- The label of an ASCII form, without the mark in front. -/
def decode? (cs : List Char) : Option (List Char) :=
  if cs.contains '-' then
    let tail := (cs.reverse.takeWhile (· != '-')).reverse
    let basic := cs.take (cs.length - tail.length - 1)
    if cs.all (·.toNat < 0x80) then insertAll basic 128 0 72 tail else none
  else insertAll [] 128 0 72 cs

end Punycode
end Url
end Walkthrough
