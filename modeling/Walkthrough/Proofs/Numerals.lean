import Mathlib.Data.List.TakeWhile
import Walkthrough.Json.Token

/-!
# Walkthrough.Proofs.Numerals

Numbers as they are written in documents are numerals, and a numeral is read back as it was written.

* `scanNumeral_chars`: whatever follows a numeral, unless it goes on with it, the numeral is read as
  it stands.
* `exists_numeral`: what is written for a finite number is a numeral.
* `number_ofNat`: the digits of a natural number stand for it.
* `Number.isProper_numeral`: so every number of a document is written as its numeral.
-/

namespace Walkthrough

/-! ## Rows of digits -/

/-- At least one digit, and digits only. -/
structure IsDigits (ds : List Char) : Prop where
  ne_nil : ds ≠ []
  all : ∀ c ∈ ds, c.isDigit = true

/-- Nothing follows that goes on with a row of digits. -/
def StopsDigits (rest : List Char) : Prop := ∀ c ∈ rest.head?, c.isDigit = false

theorem isDigits_toDigits (n : Nat) : IsDigits (Nat.toDigits 10 n) where
  ne_nil := List.ne_nil_of_length_pos Nat.length_toDigits_pos
  all _ hc := Nat.isDigit_of_mem_toDigits (by decide) (by decide) hc

/-- No zero leads the digits of a number other than zero. -/
theorem head?_toDigits_ne {n : Nat} (hn : n ≠ 0) : (Nat.toDigits 10 n).head? ≠ some '0' := by
  induction n using Nat.strongRecOn with
  | ind n ih =>
    rw [Nat.toDigits_eq_if (by decide)]
    split
    · simpa using hn
    · next hten =>
      have hlead := ih (n / 10) (Nat.div_lt_self (Nat.pos_of_ne_zero hn) (by decide)) (by omega)
      rwa [List.head?_append, Option.or_of_isSome]
      exact List.isSome_head?.2 (isDigits_toDigits _).ne_nil

section Scan

variable {ds rest : List Char}

theorem takeWhile_digits (hds : ∀ c ∈ ds, c.isDigit = true) (hrest : StopsDigits rest) :
    (ds ++ rest).takeWhile Char.isDigit = ds := by
  rw [List.takeWhile_append_of_pos hds]
  cases rest with
  | nil => simp
  | cons c cs => simp [hrest c rfl]

theorem dropWhile_digits (hds : ∀ c ∈ ds, c.isDigit = true) (hrest : StopsDigits rest) :
    (ds ++ rest).dropWhile Char.isDigit = rest := by
  rw [List.dropWhile_append_of_pos hds]
  cases rest with
  | nil => rfl
  | cons c cs => simp [hrest c rfl]

end Scan

namespace Json

/-- A numeral of the grammar: no zero leads, and there are digits where there have to be. -/
structure Numeral.IsProper (n : Numeral) : Prop where
  whole : IsDigits n.whole
  lead : n.whole.head? = some '0' → n.whole = ['0']
  fraction : ∀ c ∈ n.fraction, c.isDigit = true
  power : ∀ down ds, n.power = some (down, ds) → IsDigits ds

/-- The digits behind the point, with the point. -/
def Numeral.fractionChars (n : Numeral) : List Char :=
  if n.fraction.isEmpty then [] else '.' :: n.fraction

/-- The power of ten, with a letter and a sign in front. -/
def Numeral.powerChars (n : Numeral) : List Char :=
  match n.power with
  | none => []
  | some (down, ds) => 'e' :: (if down then '-' else '+') :: ds

/-- A numeral as it is written. -/
def Numeral.chars (n : Numeral) : List Char :=
  (if n.negative then ['-'] else []) ++ (n.whole ++ (n.fractionChars ++ n.powerChars))

/-- Nothing follows that goes on with a numeral. -/
def StopsNumeral (rest : List Char) : Prop :=
  ∀ c ∈ rest.head?, c.isDigit = false ∧ c ≠ '.' ∧ c ≠ 'e' ∧ c ≠ 'E'

section Scan

variable {n : Numeral} {ds rest : List Char}

theorem StopsNumeral.stopsDigits (h : StopsNumeral rest) : StopsDigits rest :=
  fun c hc => (h c hc).1

theorem scanDigits_digits (hds : IsDigits ds) (hrest : StopsDigits rest) :
    scanDigits (ds ++ rest) = .ok (ds, rest) := by
  obtain ⟨c, cs, rfl⟩ := List.exists_cons_of_ne_nil hds.ne_nil
  have htake := takeWhile_digits hds.all hrest
  have hdrop := dropWhile_digits hds.all hrest
  rw [List.cons_append] at htake hdrop ⊢
  simp only [scanDigits, hds.all c List.mem_cons_self, if_true, htake, hdrop]

theorem scanWhole_digits (hds : IsDigits ds) (hlead : ds.head? = some '0' → ds = ['0'])
    (hrest : StopsDigits rest) : scanWhole (ds ++ rest) = .ok (ds, rest) := by
  obtain ⟨c, cs, rfl⟩ := List.exists_cons_of_ne_nil hds.ne_nil
  by_cases hc : c = '0'
  · subst hc
    obtain rfl : cs = [] := by simpa using hlead rfl
    cases rest with
    | nil => rfl
    | cons d rest => simp [scanWhole, hrest d rfl]
  · have htake := takeWhile_digits hds.all hrest
    have hdrop := dropWhile_digits hds.all hrest
    rw [List.cons_append] at htake hdrop ⊢
    unfold scanWhole
    split
    · next h => cases h
    · next h => exact absurd (List.cons.inj h).1 hc
    · next h => exact absurd (List.cons.inj h).1 hc
    · next h =>
      obtain ⟨rfl, rfl⟩ := List.cons.inj h
      rw [if_pos (hds.all _ List.mem_cons_self), htake, hdrop]

theorem scanFraction_chars (h : n.IsProper) (hrest : StopsDigits rest)
    (hpoint : rest.head? ≠ some '.') : scanFraction (n.fractionChars ++ rest) = .ok (n.fraction, rest) := by
  unfold Numeral.fractionChars
  split
  · next hempty =>
    rw [List.isEmpty_iff.1 hempty, List.nil_append]
    unfold scanFraction
    split
    · exact absurd rfl hpoint
    · rfl
  · next hfraction =>
    exact scanDigits_digits ⟨by simpa using hfraction, h.fraction⟩ hrest

theorem scanPower_chars (h : n.IsProper) (hrest : StopsNumeral rest) :
    scanPower (n.powerChars ++ rest) = .ok (n.power, rest) := by
  unfold Numeral.powerChars
  split
  · next hpower =>
    cases rest with
    | nil => rw [hpower]; rfl
    | cons c rest =>
      obtain ⟨-, -, he, hE⟩ := hrest c rfl
      simp [scanPower, he, hE, hpower]
  · next down ds hpower =>
    have hscan := scanDigits_digits (h.power down ds hpower) hrest.stopsDigits
    cases down <;> simp [scanPower, hscan, hpower, Except.map]

theorem stopsDigits_powerChars (n : Numeral) (hrest : StopsNumeral rest) :
    StopsDigits (n.powerChars ++ rest) ∧ (n.powerChars ++ rest).head? ≠ some '.' := by
  unfold Numeral.powerChars
  split
  · exact ⟨hrest.stopsDigits, fun hpoint => (hrest '.' hpoint).2.1 rfl⟩
  · simp [StopsDigits]

theorem stopsDigits_fractionChars (n : Numeral) (hrest : StopsDigits rest) :
    StopsDigits (n.fractionChars ++ rest) := by
  unfold Numeral.fractionChars
  split
  · exact hrest
  · simp [StopsDigits]

/-- A minus sign is told from a digit. -/
theorem sign_split (negative : Bool) (hds : IsDigits ds) :
    (match (if negative then ['-'] else []) ++ (ds ++ rest) with
      | '-' :: r => (true, r)
      | r => (false, r)) = (negative, ds ++ rest) := by
  cases negative with
  | true => rfl
  | false =>
    obtain ⟨c, cs, rfl⟩ := List.exists_cons_of_ne_nil hds.ne_nil
    have hc : c ≠ '-' := by
      rintro rfl
      have hdigit := hds.all '-' List.mem_cons_self
      revert hdigit
      decide
    simp only [Bool.false_eq_true, if_false, List.nil_append, List.cons_append]
    split
    · next h => exact absurd (List.cons.inj h).1 hc
    · rfl

/-- A numeral is read as it stands, up to what does not go on with it. -/
theorem scanNumeral_chars (h : n.IsProper) (hrest : StopsNumeral rest) :
    scanNumeral (n.chars ++ rest) = .ok (n, rest) := by
  obtain ⟨hpower, hpoint⟩ := stopsDigits_powerChars n hrest
  have hwhole := scanWhole_digits h.whole h.lead (stopsDigits_fractionChars n hpower)
  have hfraction := scanFraction_chars h hpower hpoint
  simp only [Numeral.chars, List.append_assoc]
  unfold scanNumeral
  split
  next negative cs heq =>
    obtain ⟨rfl, rfl⟩ := Prod.mk.inj (heq.symm.trans (sign_split n.negative h.whole))
    simp only [hwhole, hfraction, scanPower_chars h hrest, bind, Except.bind]
    rfl

end Scan

/-! ## Integers -/

/-- An integer as a numeral. -/
def Numeral.ofNat (negative : Bool) (n : Nat) : Numeral := ⟨negative, Nat.toDigits 10 n, [], none⟩

theorem Numeral.isProper_ofNat (negative : Bool) (n : Nat) : (Numeral.ofNat negative n).IsProper where
  whole := isDigits_toDigits n
  lead h := by
    by_cases hn : n = 0
    · subst hn
      rfl
    · exact absurd h (head?_toDigits_ne hn)
  fraction := List.forall_mem_nil _
  power := nofun

theorem le_ofDigitChars (n : Nat) (ds : List Char) : n ≤ Nat.ofDigitChars 10 ds n := by
  induction ds generalizing n with
  | nil => simp
  | cons c cs ih =>
    rw [Nat.ofDigitChars_cons]
    exact Nat.le_trans (by omega) (ih _)

theorem takeSignificand_of_lt {n : Nat} {ds : List Char}
    (h : Nat.ofDigitChars 10 ds n < twoTo 64) :
    takeSignificand n ds = (Nat.ofDigitChars 10 ds n, []) := by
  induction ds generalizing n with
  | nil => simp [takeSignificand]
  | cons c cs ih =>
    rw [Nat.ofDigitChars_cons] at h ⊢
    have hfits : 10 * n + Binary64.digitValue c < twoTo 64 := Nat.lt_of_le_of_lt (le_ofDigitChars _ cs) h
    simp only [takeSignificand, if_pos hfits]
    exact ih h

theorem takeSignificand_toDigits {n : Nat} (h : n < twoTo 64) :
    takeSignificand 0 (Nat.toDigits 10 n) = (n, []) := by
  rw [takeSignificand_of_lt, Nat.ofDigitChars_ten_toDigits]
  rwa [Nat.ofDigitChars_ten_toDigits]

/-- The digits of a natural number stand for it. -/
theorem number_ofNat {n : Nat} (h : n < twoTo 64) :
    (Numeral.ofNat false n).number = .ok (.natural n) := by
  simp [Numeral.number, Numeral.ofNat, takeSignificand_toDigits h]

theorem number_ofNat_negative {n : Nat} (hpos : n ≠ 0) (h : n ≤ twoTo 63) :
    (Numeral.ofNat true n).number = .ok (.negative n) := by
  have hlt : n < twoTo 64 := by
    have hdouble : twoTo 64 = twoTo 63 * 2 := twoTo_succ 63
    have := twoTo_pos 63
    omega
  simp [Numeral.number, Numeral.ofNat, takeSignificand_toDigits hlt, hpos, h]

end Json

/-! ## Floating point numbers -/

namespace Binary64

variable {x : Binary64}

theorem neighbourhood_low_ne_zero (h : x.isZero = false) : x.neighbourhood.1 ≠ 0 := by
  have hm := mantissa_ne_zero h
  have hlow : (if x.fraction.val = 0 && 1 < x.exponent.val then 4 * x.mantissa - 1
      else 4 * x.mantissa - 2) ≠ 0 := by
    split <;> omega
  simp only [neighbourhood]
  split
  · exact Nat.mul_ne_zero hlow (Nat.ne_of_gt (twoTo_pos _))
  · exact hlow

theorem timesPowerOfTen_zero (p : Int) :
    (timesPowerOfTen 0 1 p).1 = 0 ∧ (timesPowerOfTen 0 1 p).2 ≠ 0 := by
  unfold timesPowerOfTen
  split
  · simp
  · simp [Nat.ne_of_gt (tenTo_pos _)]

/-- Zero is read back as no other number. -/
theorem readsBack_zero (h : x.isZero = false) (p : Int) : x.readsBack 0 p = false := by
  have hlow := neighbourhood_low_ne_zero h
  obtain ⟨hnum, hden⟩ := timesPowerOfTen_zero p
  have hpos := Nat.mul_ne_zero hlow hden
  unfold readsBack
  generalize x.neighbourhood = around at *
  generalize timesPowerOfTen 0 1 p = quotient at *
  simp [hnum, hpos]

theorem digits_ne_zero_of_onGrid (h : x.isZero = false) {n : Nat} {s : Shortest}
    (hs : x.onGrid n = some s) : s.digits ≠ 0 := by
  unfold onGrid at hs
  generalize x.ratio = ratio at hs
  obtain ⟨num, den⟩ := ratio
  dsimp only at hs
  generalize floorLog10 num den - (n : Int) + 1 = p at hs
  generalize timesPowerOfTen num den (-p) = quotient at hs
  obtain ⟨a, b⟩ := quotient
  dsimp only at hs
  split at hs
  · next hlow =>
    obtain rfl := Option.some.inj hs
    intro (hzero : a / b = 0)
    rw [hzero, readsBack_zero h] at hlow
    cases hlow
  · split at hs
    · obtain rfl := Option.some.inj hs
      exact Nat.succ_ne_zero _
    · cases hs

theorem searchGrids_succ (x : Binary64) (fuel n : Nat) :
    x.searchGrids (fuel + 1) n = (x.onGrid n).getD (x.searchGrids fuel (n + 1)) := by
  -- the grid is put out of sight first: to compute with it would take too long
  delta searchGrids searchGrids._f
  generalize x.onGrid = grid
  cases hgrid : grid n <;> simp [hgrid]

theorem digits_searchGrids_ne_zero (h : x.isZero = false) (fuel n : Nat) :
    (x.searchGrids fuel n).digits ≠ 0 := by
  have hratio := ratio_num_ne_zero h
  induction fuel generalizing n with
  | zero => exact hratio
  | succ fuel ih =>
    rw [searchGrids_succ]
    cases hgrid : x.onGrid n with
    | none => exact ih (n + 1)
    | some s => exact digits_ne_zero_of_onGrid h hgrid

theorem digits_dropZeros_ne_zero (fuel : Nat) {d : Nat} (hd : d ≠ 0) (p : Int) :
    (dropZeros fuel d p).digits ≠ 0 := by
  induction fuel generalizing d p with
  | zero => exact hd
  | succ fuel ih =>
    simp only [dropZeros]
    split
    · next hzero =>
      simp only [Bool.and_eq_true, decide_eq_true_eq, bne_iff_ne] at hzero
      exact ih (by omega) _
    · exact hd

/-- The digits that are chosen for a number other than zero do not stand for zero. -/
theorem digits_shortest_ne_zero (h : x.isZero = false) : x.shortest.digits ≠ 0 :=
  digits_dropZeros_ne_zero 20 (digits_searchGrids_ne_zero h 17 1) _

theorem toList_signText (x : Binary64) :
    x.signText.toList = if x.negative then ['-'] else [] := by
  unfold signText
  split <;> rfl

/-- A point among digits, or in front of them behind a single zero. -/
theorem exists_point {ds : List Char} (hds : IsDigits ds) (hlead : ds.head? ≠ some '0')
    {places : Nat} (hplaces : places ≠ 0) :
    ∃ whole part, IsDigits whole ∧ (whole.head? = some '0' → whole = ['0']) ∧ IsDigits part ∧
      (withPoint (String.ofList ds) places).toList = whole ++ '.' :: part := by
  obtain ⟨cs, hcs⟩ : ∃ cs, cs = List.replicate (places + 1 - ds.length) '0' ++ ds := ⟨_, rfl⟩
  have hall : ∀ c ∈ cs, c.isDigit = true := by
    rw [hcs]
    refine List.forall_mem_append.2 ⟨fun c hc => ?_, hds.all⟩
    rw [List.eq_of_mem_replicate hc]
    rfl
  have hlength : places + 1 ≤ cs.length := by
    rw [hcs, List.length_append, List.length_replicate]
    omega
  have hpart : cs.drop (cs.length - places) ≠ [] := by
    rw [ne_eq, List.drop_eq_nil_iff]
    omega
  refine ⟨cs.take (cs.length - places), cs.drop (cs.length - places), ⟨?_, ?_⟩, ?_, ⟨hpart, ?_⟩, ?_⟩
  · rw [ne_eq, List.take_eq_nil_iff, not_or]
    exact ⟨by omega, List.ne_nil_of_length_pos (by omega)⟩
  · exact fun c hc => hall c (List.mem_of_mem_take hc)
  · intro hzero
    by_cases hlong : places < ds.length
    · rw [hcs, Nat.sub_eq_zero_of_le hlong, List.replicate_zero, List.nil_append,
        List.head?_take, if_neg (by omega)] at hzero
      exact absurd hzero hlead
    · have hsingle : cs.length - places = 1 := by
        rw [hcs, List.length_append, List.length_replicate]
        omega
      rw [hsingle] at hzero ⊢
      cases cs with
      | nil => cases hzero
      | cons c cs => simpa using hzero
  · exact fun c hc => hall c (List.mem_of_mem_drop hc)
  · have hpart' : (cs.drop (cs.length - places)).isEmpty = false := by simpa using hpart
    simp only [withPoint, String.toList_ofList, ← hcs, hpart']
    simp

end Binary64

namespace Json

variable {x : Binary64}

theorem exists_numeral_positional {s : Binary64.Shortest} (hs : s.digits ≠ 0) (negative : Bool) :
    ∃ m : Numeral, m.IsProper ∧ m.chars = (if negative then ['-'] else []) ++
      (Binary64.positional s ++ (if 0 ≤ s.power then ".0" else "")).toList := by
  have hdigits := isDigits_toDigits s.digits
  have hlead := head?_toDigits_ne hs
  by_cases hpower : 0 ≤ s.power
  · refine ⟨⟨negative, Nat.toDigits 10 s.digits ++ List.replicate s.power.toNat '0', ['0'], none⟩,
      ⟨⟨?_, ?_⟩, ?_, ?_, nofun⟩, ?_⟩
    · simp [hdigits.ne_nil]
    · refine List.forall_mem_append.2 ⟨hdigits.all, fun c hc => ?_⟩
      rw [List.eq_of_mem_replicate hc]
      rfl
    · rw [List.head?_append, Option.or_of_isSome (List.isSome_head?.2 hdigits.ne_nil)]
      exact fun hzero => absurd hzero hlead
    · simp
    · simp [Numeral.chars, Numeral.fractionChars, Numeral.powerChars, Binary64.positional, hpower]
  · have hplaces : (-s.power).toNat ≠ 0 := by omega
    obtain ⟨whole, part, hwhole, hzero, hpart, htext⟩ := Binary64.exists_point hdigits hlead hplaces
    refine ⟨⟨negative, whole, part, none⟩, ⟨hwhole, hzero, hpart.all, nofun⟩, ?_⟩
    simp [Numeral.chars, Numeral.fractionChars, Numeral.powerChars, Binary64.positional, hpower,
      Nat.repr_eq_ofList_toDigits, htext, hpart.ne_nil]

theorem exists_numeral_scientific (s : Binary64.Shortest) (negative : Bool) :
    ∃ m : Numeral, m.IsProper ∧ m.chars = (if negative then ['-'] else []) ++
      (Binary64.scientific layout.plus s).toList := by
  obtain ⟨c, cs, hcs⟩ := List.exists_cons_of_ne_nil (isDigits_toDigits s.digits).ne_nil
  have hall := (isDigits_toDigits s.digits).all
  rw [hcs] at hall
  have hc := hall c List.mem_cons_self
  refine ⟨⟨negative, [c], cs, some (decide (s.power + ((c :: cs).length : Int) - 1 < 0),
      Nat.toDigits 10 (s.power + ((c :: cs).length : Int) - 1).natAbs)⟩,
    ⟨⟨List.cons_ne_nil c [], by simpa using hc⟩, by simp,
      fun d hd => hall d (List.mem_cons_of_mem c hd), ?_⟩, ?_⟩
  · rintro _ _ ⟨⟩
    exact isDigits_toDigits _
  · simp only [Numeral.chars, Numeral.fractionChars, Numeral.powerChars, Binary64.scientific,
      Nat.toList_repr, hcs, layout]
    generalize s.power + ((c :: cs).length : Int) - 1 = e
    by_cases he : e < 0 <;> cases cs <;> simp [he]

/-- What is written for a finite number is a numeral. -/
theorem exists_numeral (h : x.isFinite = true) :
    ∃ m : Numeral, m.IsProper ∧ (x.written layout).toList = m.chars := by
  have hexponent : x.exponent ≠ 2047 := by simpa [Binary64.isFinite] using h
  have hnan : x.isNaN = false := by simp [Binary64.isNaN, hexponent]
  have hinfinite : x.isInfinite = false := by simp [Binary64.isInfinite, hexponent]
  simp only [Binary64.written, hnan, hinfinite, Bool.false_eq_true, if_false]
  split
  · refine ⟨⟨x.negative, ['0'], ['0'], none⟩, ⟨⟨by simp, by simp⟩, by simp, by simp, nofun⟩, ?_⟩
    simp [Numeral.chars, Numeral.fractionChars, Numeral.powerChars, Binary64.toList_signText]
  · next hzero =>
    have hdigits := Binary64.digits_shortest_ne_zero (Bool.eq_false_iff.2 hzero)
    generalize x.shortest = s at hdigits
    split
    · obtain ⟨m, hm, hchars⟩ := exists_numeral_positional hdigits x.negative
      refine ⟨m, hm, ?_⟩
      rw [hchars, String.append_assoc, String.toList_append, Binary64.toList_signText]
    · obtain ⟨m, hm, hchars⟩ := exists_numeral_scientific s x.negative
      refine ⟨m, hm, ?_⟩
      rw [hchars, String.toList_append, Binary64.toList_signText]

/-! ## Numbers of documents -/

/-- A number that has a numeral. -/
def Number.IsFinite : Number → Prop
  | .real x => x.isFinite = true
  | _ => True

/-- The numeral that is written for a number. -/
def Number.numeral (n : Number) : Numeral :=
  match scanNumeral n.text.toList with
  | .ok (m, _) => m
  | .error _ => .ofNat false 0

theorem Number.numeral_eq {n : Number} {m : Numeral} (hm : m.IsProper)
    (htext : n.text.toList = m.chars) : n.numeral = m := by
  have hstop : StopsNumeral [] := fun _ hc => by cases hc
  have hscan := scanNumeral_chars hm hstop
  rw [List.append_nil] at hscan
  simp only [Number.numeral, htext, hscan]

theorem Number.chars_ofNat (negative : Bool) (n : Nat) : (Numeral.ofNat negative n).chars =
    (if negative then ['-'] else []) ++ Nat.toDigits 10 n := by
  cases negative <;> simp [Numeral.ofNat, Numeral.chars, Numeral.fractionChars, Numeral.powerChars]

theorem Number.numeral_natural (n : Nat) : (Number.natural n).numeral = .ofNat false n :=
  Number.numeral_eq (Numeral.isProper_ofNat false n) (by simp [Number.text, Number.chars_ofNat])

theorem Number.numeral_negative (n : Nat) : (Number.negative n).numeral = .ofNat true n :=
  Number.numeral_eq (Numeral.isProper_ofNat true n) (by simp [Number.text, Number.chars_ofNat])

/-- A number that has a numeral is written as that. -/
theorem Number.isProper_numeral {n : Number} (h : n.IsFinite) :
    n.numeral.IsProper ∧ n.text.toList = n.numeral.chars := by
  obtain ⟨m, hm, htext⟩ : ∃ m : Numeral, m.IsProper ∧ n.text.toList = m.chars := by
    cases n with
    | natural n =>
      exact ⟨_, Numeral.isProper_ofNat false n, by simp [Number.text, Number.chars_ofNat]⟩
    | negative n =>
      exact ⟨_, Numeral.isProper_ofNat true n, by simp [Number.text, Number.chars_ofNat]⟩
    | real x => exact exists_numeral h
  rw [Number.numeral_eq hm htext]
  exact ⟨hm, htext⟩

end Json
end Walkthrough
