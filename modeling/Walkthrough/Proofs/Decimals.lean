import Walkthrough.Binary64.Reading
import Walkthrough.Proofs.Numerals

/-!
# Walkthrough.Proofs.Decimals

Decimal texts as a grammar, which knows nothing of how they are read.

* `IsDecimal`: digits with a point or without, at least one of them, and perhaps a power of ten.
* `read?_eq_some_iff`: exactly the decimal texts are read as such.
* `finite_parse_iff`: a finite number is read exactly from a decimal text with a sign or without, and
  is the one nearest to it.
-/

namespace Walkthrough
namespace Binary64

/-- A sign or none, and whether it is a minus. -/
inductive IsSign : List Char → Bool → Prop where
  | none : IsSign [] false
  | plus : IsSign ['+'] false
  | minus : IsSign ['-'] true

/-- What stands behind the whole digits, and the digits that it has. -/
inductive IsFraction : List Char → List Char → Prop where
  | none : IsFraction [] []
  | point {ds : List Char} : (∀ c ∈ ds, c.isDigit = true) → IsFraction ('.' :: ds) ds

/-- What stands behind the digits, and the power of ten that it says. -/
inductive IsPower : List Char → Int → Prop where
  | none : IsPower [] 0
  | written {e : Char} {sign ds : List Char} {negative : Bool} : e = 'e' ∨ e = 'E' →
      IsSign sign negative → IsDigits ds →
      IsPower (e :: (sign ++ ds)) (if negative then -(ofDigits ds : Int) else ofDigits ds)

/-- An unsigned decimal text. -/
def IsDecimal (cs : List Char) (d : Decimal) : Prop :=
  ∃ fraction power, cs = d.whole ++ (fraction ++ power) ∧ (∀ c ∈ d.whole, c.isDigit = true) ∧
    IsFraction fraction d.fraction ∧ (d.whole ≠ [] ∨ d.fraction ≠ []) ∧ IsPower power d.power

/-! ## Signs -/

/-- No sign stands in front. -/
def IsUnsigned (cs : List Char) : Prop := cs.head? ≠ some '-' ∧ cs.head? ≠ some '+'

theorem isUnsigned_cons {c : Char} (h : c.isDigit = true ∨ c = '.') (cs : List Char) :
    IsUnsigned (c :: cs) := by
  constructor
  all_goals
    intro hc
    obtain rfl := Option.some.inj hc
    revert h
    decide

theorem isUnsigned_of_isDigits {ds : List Char} (h : IsDigits ds) : IsUnsigned ds := by
  obtain ⟨c, cs, rfl⟩ := List.exists_cons_of_ne_nil h.ne_nil
  exact isUnsigned_cons (.inl (h.all c List.mem_cons_self)) cs

theorem cutSign_of_isUnsigned {cs : List Char} (h : IsUnsigned cs) : cutSign cs = (false, cs) := by
  unfold cutSign
  split
  · exact absurd rfl h.1
  · exact absurd rfl h.2
  · rfl

theorem cutSign_append {sign cs : List Char} {negative : Bool} (hsign : IsSign sign negative)
    (hcs : IsUnsigned cs) : cutSign (sign ++ cs) = (negative, cs) := by
  cases hsign with
  | none => exact cutSign_of_isUnsigned hcs
  | plus => rfl
  | minus => rfl

theorem exists_sign (cs : List Char) :
    ∃ sign, IsSign sign (cutSign cs).1 ∧ cs = sign ++ (cutSign cs).2 := by
  unfold cutSign
  split
  · exact ⟨['-'], .minus, rfl⟩
  · exact ⟨['+'], .plus, rfl⟩
  · exact ⟨[], .none, rfl⟩

/-! ## Decimal texts -/

theorem readPower?_eq_some_iff {cs : List Char} {p : Int} :
    Decimal.readPower? cs = some p ↔ ∃ sign negative ds, cs = sign ++ ds ∧ IsSign sign negative ∧
      IsDigits ds ∧ p = if negative then -(ofDigits ds : Int) else ofDigits ds := by
  constructor
  · intro h
    obtain ⟨sign, hsign, hcs⟩ := exists_sign cs
    simp only [Decimal.readPower?] at h
    split at h
    · cases h
    · next hdigits =>
      simp only [Bool.or_eq_true, List.isEmpty_iff, Bool.not_eq_true', not_or,
        Bool.not_eq_false, List.all_eq_true] at hdigits
      exact ⟨sign, _, _, hcs, hsign, ⟨hdigits.1, hdigits.2⟩, (Option.some.inj h).symm⟩
  · rintro ⟨sign, negative, ds, rfl, hsign, hds, rfl⟩
    have hall : ds.all Char.isDigit = true := List.all_eq_true.2 hds.all
    simp [Decimal.readPower?, cutSign_append hsign (isUnsigned_of_isDigits hds), hds.ne_nil, hall]

theorem isPower_iff {cs : List Char} {p : Int} : IsPower cs p ↔
    cs = [] ∧ p = 0 ∨
      ∃ e rest, cs = e :: rest ∧ (e = 'e' ∨ e = 'E') ∧ Decimal.readPower? rest = some p := by
  constructor
  · intro h
    cases h with
    | none => exact .inl ⟨rfl, rfl⟩
    | written he hsign hds =>
      exact .inr ⟨_, _, rfl, he, readPower?_eq_some_iff.2 ⟨_, _, _, rfl, hsign, hds, rfl⟩⟩
  · rintro (⟨rfl, rfl⟩ | ⟨e, rest, rfl, he, hread⟩)
    · exact .none
    · obtain ⟨sign, negative, ds, rfl, hsign, hds, rfl⟩ := readPower?_eq_some_iff.1 hread
      exact .written he hsign hds

theorem IsPower.stopsDigits {cs : List Char} {p : Int} (h : IsPower cs p) : StopsDigits cs := by
  intro c hc
  cases h with
  | none => cases hc
  | written he =>
    obtain rfl := Option.some.inj hc
    rcases he with rfl | rfl <;> rfl

theorem IsPower.head?_ne {cs : List Char} {p : Int} (h : IsPower cs p) : cs.head? ≠ some '.' := by
  intro hpoint
  cases h with
  | none => cases hpoint
  | written he =>
    obtain rfl := Option.some.inj hpoint
    revert he
    decide

theorem IsFraction.stopsDigits {fraction digits rest : List Char} (h : IsFraction fraction digits)
    (hrest : StopsDigits rest) : StopsDigits (fraction ++ rest) := by
  cases h with
  | none => exact hrest
  | point =>
    intro c hc
    obtain rfl := Option.some.inj hc
    rfl

theorem cutFraction_append {fraction digits rest : List Char} (h : IsFraction fraction digits)
    (hrest : StopsDigits rest) (hpoint : rest.head? ≠ some '.') :
    cutFraction (fraction ++ rest) = (digits, rest) := by
  cases h with
  | none =>
    unfold cutFraction
    split
    · next heq => exact absurd (congrArg List.head? heq) hpoint
    · rfl
  | point hds =>
    simp only [List.cons_append, cutFraction, takeWhile_digits hds hrest, dropWhile_digits hds hrest]

theorem exists_fraction (cs : List Char) :
    ∃ fraction, IsFraction fraction (cutFraction cs).1 ∧ cs = fraction ++ (cutFraction cs).2 := by
  unfold cutFraction
  split
  · next rest =>
    refine ⟨'.' :: rest.takeWhile Char.isDigit, .point fun c hc => List.mem_takeWhile_imp hc, ?_⟩
    simp
  · exact ⟨[], .none, rfl⟩

theorem read?_eq_some_iff {cs : List Char} {d : Decimal} :
    Decimal.read? cs = some d ↔ IsDecimal cs d := by
  constructor
  · intro h
    obtain ⟨fraction, hfraction, hrest⟩ := exists_fraction (cs.dropWhile Char.isDigit)
    have hwhole : ∀ c ∈ cs.takeWhile Char.isDigit, c.isDigit = true :=
      fun c hc => List.mem_takeWhile_imp hc
    have hcs : cs = cs.takeWhile Char.isDigit ++
        (fraction ++ (cutFraction (cs.dropWhile Char.isDigit)).2) := by
      rw [← hrest, List.takeWhile_append_dropWhile]
    simp only [Decimal.read?] at h
    split at h
    · cases h
    · next hsome =>
      have hdigits : cs.takeWhile Char.isDigit ≠ [] ∨
          (cutFraction (cs.dropWhile Char.isDigit)).1 ≠ [] := by
        simpa only [Bool.and_eq_true, List.isEmpty_iff, not_and_or] using hsome
      split at h
      · next hnil =>
        cases h
        exact ⟨fraction, _, hcs, hwhole, hfraction, hdigits, isPower_iff.2 (.inl ⟨hnil, rfl⟩)⟩
      · next c rest hcons =>
        split at h
        · next hletter =>
          obtain ⟨p, hp, rfl⟩ := Option.map_eq_some_iff.1 h
          exact ⟨fraction, _, hcs, hwhole, hfraction, hdigits,
            isPower_iff.2 (.inr ⟨c, rest, hcons, hletter, hp⟩)⟩
        · cases h
  · rintro ⟨fraction, power, rfl, hwhole, hfraction, hdigits, hpower⟩
    have hstops := hfraction.stopsDigits hpower.stopsDigits
    have hnot : ¬(d.whole.isEmpty && d.fraction.isEmpty) = true := by
      simpa only [Bool.and_eq_true, List.isEmpty_iff, not_and_or] using hdigits
    simp only [Decimal.read?, takeWhile_digits hwhole hstops, dropWhile_digits hwhole hstops,
      cutFraction_append hfraction hpower.stopsDigits hpower.head?_ne, if_neg hnot]
    rcases isPower_iff.1 hpower with ⟨rfl, hp⟩ | ⟨e, rest, rfl, he, hread⟩
    · rw [← hp]
    · simp [he, hread]

/-! ## Finite numbers -/

/-- A decimal text with a sign or without, and the number nearest to it. -/
def IsNumber (cs : List Char) (x : Binary64) : Prop :=
  ∃ sign negative rest d, cs = sign ++ rest ∧ IsSign sign negative ∧ IsDecimal rest d ∧
    x = d.nearest negative

/-- A decimal text starts with a digit or with a point. -/
theorem IsDecimal.exists_cons {cs : List Char} {d : Decimal} (h : IsDecimal cs d) :
    ∃ c rest, cs = c :: rest ∧ (c.isDigit = true ∨ c = '.') := by
  obtain ⟨whole, digits, p⟩ := d
  obtain ⟨fraction, power, rfl, hwhole, hfraction, hdigits, -⟩ := h
  cases whole with
  | cons c rest => exact ⟨c, _, rfl, .inl (hwhole c List.mem_cons_self)⟩
  | nil =>
    change IsFraction fraction digits at hfraction
    cases hfraction with
    | none => simp at hdigits
    | point => exact ⟨'.', _, rfl, .inr rfl⟩

theorem toLower_eq_self {c : Char} (h : c.isDigit = true ∨ c = '.') : c.toLower = c := by
  have hbelow : ¬('A'.val ≤ c.val) := by
    rcases h with hdigit | rfl
    · have hnine : c.val.toNat ≤ 57 := by
        simp only [Char.isDigit, Bool.and_eq_true, decide_eq_true_eq] at hdigit
        exact hdigit.2
      intro hletter
      exact absurd (Nat.le_trans (UInt32.le_iff_toNat_le.1 hletter) hnine) (by decide)
    · decide
  exact dif_neg fun hupper => hbelow hupper.1

/-- A decimal text is none of the names of infinity and of the value that is no number. -/
theorem IsDecimal.map_toLower_ne {cs name : List Char} {d : Decimal} {letter : Char}
    (h : IsDecimal cs d) (hletter : letter = 'n' ∨ letter = 'i') :
    cs.map Char.toLower ≠ letter :: name := by
  intro heq
  obtain ⟨c, rest, rfl, hc⟩ := h.exists_cons
  obtain ⟨rfl, -⟩ := List.cons.inj heq
  rw [toLower_eq_self hc] at hletter
  rcases hletter with rfl | rfl
  · exact absurd hc (by decide)
  · exact absurd hc (by decide)

/-- A finite number is read from a decimal text with a sign or without, and from nothing else. -/
theorem finite_parse_iff {s : String} {x : Binary64} (hx : x.isFinite = true) :
    parse? s = some x ↔ IsNumber s.toList x := by
  constructor
  · intro h
    obtain ⟨sign, hsign, hs⟩ := exists_sign s.toList
    simp only [parse?] at h
    split at h
    · cases h
      cases hx
    · split at h
      · cases h
        cases hx
      · obtain ⟨d, hd, rfl⟩ := Option.map_eq_some_iff.1 h
        exact ⟨sign, _, _, d, hs, hsign, read?_eq_some_iff.1 hd, rfl⟩
  · rintro ⟨sign, negative, cs, d, hs, hsign, hd, rfl⟩
    obtain ⟨c, rest, hcs, hc⟩ := hd.exists_cons
    have hcut := cutSign_append hsign (hcs ▸ isUnsigned_cons hc rest)
    have hnan : cs.map Char.toLower ≠ "nan".toList := hd.map_toLower_ne (.inl rfl)
    have hinf : ¬(cs.map Char.toLower = "inf".toList ∨ cs.map Char.toLower = "infinity".toList) :=
      not_or.2 ⟨hd.map_toLower_ne (.inr rfl), hd.map_toLower_ne (.inr rfl)⟩
    simp only [parse?, hs, hcut, if_neg hnan, if_neg hinf, read?_eq_some_iff.2 hd, Option.map_some]

end Binary64
end Walkthrough
