import Walkthrough.Proofs.Numerals
import Walkthrough.Timestamp

/-!
# Walkthrough.Proofs.Moments

A moment of the years 0 to 9999 is read back from its text.

* `readNumber_padded`: whatever follows a padded number, unless it goes on with it, the number is
  read as it was.
* `readFraction_fractionText`: so is a fraction of a second, however many groups of digits it takes.
* `Timestamp.parse_written`: from part to part, so is the whole moment.
-/

namespace Walkthrough

open Text

/-! ## Padded numbers -/

/-- The digits of a number, padded to a width. -/
def paddedDigits (width n : Nat) : List Char := (padded width n).toList

section Padded

variable {width n : Nat}

theorem paddedDigits_eq (width n : Nat) : paddedDigits width n =
    List.replicate (width - (Nat.repr n).length) '0' ++ Nat.toDigits 10 n := by
  rw [paddedDigits, padded, String.toList_append, String.toList_ofList, Nat.toList_repr]

theorem isDigits_padded (width n : Nat) : IsDigits (paddedDigits width n) where
  ne_nil := by
    rw [paddedDigits_eq]
    exact List.append_ne_nil_of_right_ne_nil _ (isDigits_toDigits n).ne_nil
  all := by
    rw [paddedDigits_eq]
    refine List.forall_mem_append.2 ⟨fun c hc => ?_, (isDigits_toDigits n).all⟩
    rw [List.eq_of_mem_replicate hc]
    rfl

theorem length_padded (hwidth : 0 < width) (h : n < tenTo width) :
    (paddedDigits width n).length = width := by
  have hlength : (Nat.repr n).length ≤ width := (Nat.length_repr_le_iff hwidth).2 h
  rw [paddedDigits_eq, List.length_append, List.length_replicate, ← Nat.toList_repr,
    String.length_toList]
  omega

theorem ofDigits_padded (width n : Nat) : Binary64.ofDigits (paddedDigits width n) = n := by
  change Nat.ofDigitChars 10 (paddedDigits width n) 0 = n
  rw [paddedDigits_eq, Nat.ofDigitChars_append, Nat.ofDigitChars_replicate_zero, Nat.mul_zero,
    Nat.ofDigitChars_ten_toDigits]

end Padded

/-! ## Parts -/

theorem isBlank_of_isDigit {c : Char} (h : c.isDigit = true) : isBlank c = false := by
  have hbounds : 48 ≤ c.toNat ∧ c.toNat ≤ 57 := by
    simpa [Char.isDigit, UInt32.le_iff_toNat_le] using h
  simp only [isBlank, blankRanges, List.any_eq_false, List.forall_mem_cons]
  simp
  omega

theorem trimStart_digits {ds : List Char} (hds : IsDigits ds) (rest : List Char) :
    trimStart (ds ++ rest) = ds ++ rest := by
  obtain ⟨c, cs, rfl⟩ := List.exists_cons_of_ne_nil hds.ne_nil
  exact trimStart_of_head (isBlank_of_isDigit (hds.all c List.mem_cons_self))

namespace Timestamp

section Read

variable {n : Nat} {rest : List Char}

theorem readNumber_digits {most : Nat} {ds : List Char} (hds : IsDigits ds)
    (hlength : ds.length ≤ most) (hrest : StopsDigits rest) :
    readNumber most (ds ++ rest) = .ok (Binary64.ofDigits ds, rest) := by
  have htake : ((ds ++ rest).takeWhile Char.isDigit).take most = ds := by
    rw [takeWhile_digits hds.all hrest, List.take_of_length_le hlength]
  have hsome : ds.isEmpty = false := by simpa using hds.ne_nil
  have hmore : (ds ++ rest).isEmpty = false := by simp [hds.ne_nil]
  simp only [readNumber, htake, hsome, hmore, Bool.false_eq_true, if_false, List.drop_left]

theorem readNumber_padded {width : Nat} (hwidth : 0 < width) (h : n < tenTo width) {most : Nat}
    (hmost : width ≤ most) (hrest : StopsDigits rest) :
    readNumber most (paddedDigits width n ++ rest) = .ok (n, rest) := by
  have hlength := length_padded hwidth h
  rw [readNumber_digits (isDigits_padded width n) (by omega) hrest, ofDigits_padded]

theorem readPart_padded {low high : Nat} (hlow : low ≤ n) (hhigh : n ≤ high) (h : high < 100)
    (hrest : StopsDigits rest) : readPart low high (paddedDigits 2 n ++ rest) = .ok (n, rest) := by
  have hbelow : n < tenTo 2 := Nat.lt_of_le_of_lt hhigh h
  rw [readPart, trimStart_digits (isDigits_padded 2 n),
    readNumber_padded (by decide) hbelow (Nat.le_refl 2) hrest]
  exact if_pos ⟨hlow, hhigh⟩

/-- A year without a sign. -/
theorem readYear_padded (h : n ≤ 9999) (hrest : StopsDigits rest) :
    readYear (paddedDigits 4 n ++ rest) = .ok ((n : Int), rest) := by
  have hbelow : n < tenTo 4 := Nat.lt_succ_of_le h
  have hnumber := readNumber_padded (by decide) hbelow (Nat.le_refl 4) hrest
  have hdigits := isDigits_padded 4 n
  have htrim := trimStart_digits hdigits rest
  obtain ⟨c, cs, hcs⟩ := List.exists_cons_of_ne_nil hdigits.ne_nil
  have hc : c.isDigit = true := hdigits.all c (hcs ▸ List.mem_cons_self)
  rw [hcs, List.cons_append] at htrim hnumber ⊢
  simp only [readYear, htrim]
  split
  · next heq =>
    obtain ⟨rfl, -⟩ := List.cons.inj heq
    cases hc
  · next heq =>
    obtain ⟨rfl, -⟩ := List.cons.inj heq
    cases hc
  · rw [hnumber]
    rfl

theorem readMark_cons {mark : Char} (h : isBlank mark = false) :
    readMark mark (mark :: rest) = .ok rest := by
  simp only [readMark, trimStart_of_head h, if_true]

theorem stopsDigits_cons {c : Char} (h : c.isDigit = false) (rest : List Char) :
    StopsDigits (c :: rest) := by
  rintro _ ⟨⟩
  exact h

theorem readSeparator_cons : readSeparator ('T' :: rest) = .ok rest := rfl

/-- A fraction of so many digits. -/
theorem readFraction_padded {width : Nat} (hwidth : 0 < width) (hmost : width ≤ 9)
    (h : n < tenTo width) (hrest : StopsDigits rest) :
    readFraction ('.' :: (paddedDigits width n ++ rest)) =
      .ok (n * tenTo (9 - width), rest) := by
  have hlength := length_padded hwidth h
  have hdigits : (paddedDigits width n ++ rest).length - rest.length = width := by
    rw [List.length_append, hlength]
    omega
  have hdrop : rest.dropWhile Char.isDigit = rest := dropWhile_digits (List.forall_mem_nil _) hrest
  simp only [readFraction, readNumber_padded hwidth h hmost hrest, bind, Except.bind, hdigits, hdrop]

/-- A fraction that is written takes three, six or nine digits, as many as it needs. -/
theorem exists_fractionText {nano : Nat} (hpos : nano ≠ 0) (h : nano < 1000000000) :
    ∃ width groups, 0 < width ∧ width ≤ 9 ∧ groups < tenTo width ∧
      groups * tenTo (9 - width) = nano ∧
      (fractionText nano).toList = '.' :: paddedDigits width groups := by
  by_cases hthree : nano % 1000000 = 0
  · refine ⟨3, nano / 1000000, by decide, by decide, Nat.div_lt_of_lt_mul h,
      Nat.div_mul_cancel (Nat.dvd_of_mod_eq_zero hthree), ?_⟩
    rw [fractionText, if_neg hpos, if_pos hthree, String.toList_append]
    rfl
  · by_cases hsix : nano % 1000 = 0
    · refine ⟨6, nano / 1000, by decide, by decide, Nat.div_lt_of_lt_mul h,
        Nat.div_mul_cancel (Nat.dvd_of_mod_eq_zero hsix), ?_⟩
      rw [fractionText, if_neg hpos, if_neg hthree, if_pos hsix, String.toList_append]
      rfl
    · refine ⟨9, nano, by decide, by decide, h, Nat.mul_one nano, ?_⟩
      rw [fractionText, if_neg hpos, if_neg hthree, if_neg hsix, String.toList_append]
      rfl

theorem readFraction_fractionText {nano : Nat} (h : nano < 1000000000) (hrest : StopsDigits rest)
    (hpoint : rest.head? ≠ some '.') :
    readFraction ((fractionText nano).toList ++ rest) = .ok (nano, rest) := by
  by_cases hpos : nano = 0
  · rw [hpos, fractionText, if_pos rfl, String.toList_empty, List.nil_append]
    unfold readFraction
    split
    · exact absurd rfl hpoint
    · rfl
  · obtain ⟨width, groups, hwidth, hmost, hbelow, hback, htext⟩ := exists_fractionText hpos h
    rw [htext, List.cons_append, readFraction_padded hwidth hmost hbelow hrest, hback]

theorem stopsDigits_fractionText {nano : Nat} (h : nano < 1000000000) (hrest : StopsDigits rest) :
    StopsDigits ((fractionText nano).toList ++ rest) := by
  by_cases hpos : nano = 0
  · rw [hpos]
    exact hrest
  · obtain ⟨_, _, -, -, -, -, htext⟩ := exists_fractionText hpos h
    rw [htext]
    exact stopsDigits_cons rfl _

end Read

/-! ## The whole moment -/

theorem daysIn_le (year : Int) (month : Nat) : daysIn year month ≤ 31 := by
  unfold daysIn
  repeat' split
  all_goals omega

theorem isYear_of_mem {year : Int} (hfrom : 0 ≤ year) (hto : year ≤ 9999) : isYear year = true := by
  simp only [isYear, Bool.and_eq_true, decide_eq_true_eq]
  exact ⟨Int.le_trans (by decide) hfrom, Int.le_trans hto (by decide)⟩

theorem of?_date (d : Date) : Date.of? d.year d.month d.day = some d := by
  rw [Date.of?, dif_pos d.month_mem, dif_pos d.day_mem]

theorem ofLocal_zero (t : Timestamp) (hyear : isYear t.date.year = true) :
    ofLocal t.date (t.hour * 60 + t.minute) t.second t.nano t.second_le t.nano_lt 0 = .ok t := by
  obtain ⟨date, hour, minute, second, nano, hhour, hminute, hsecond, hnano⟩ := t
  have htotal : ((hour * 60 + minute : Nat) : Int) - 0 = ((hour * 60 + minute : Nat) : Int) :=
    Int.sub_zero _
  have hlow : ¬((hour * 60 + minute : Nat) : Int) < 0 := by omega
  have hhigh : ¬(1440 : Int) ≤ ((hour * 60 + minute : Nat) : Int) := by omega
  have hrest : (((hour * 60 + minute : Nat) : Int) % 1440).toNat = hour * 60 + minute := by omega
  have hhours : (hour * 60 + minute) / 60 % 24 = hour := by omega
  have hminutes : (hour * 60 + minute) % 60 = minute := by omega
  simp only [ofLocal, htotal, if_neg hlow, if_neg hhigh, hrest, hhours, hminutes, if_pos hyear]

/-- The characters of the text of a moment. -/
theorem toList_written (t : Timestamp) (hfrom : 0 ≤ t.date.year) (hto : t.date.year ≤ 9999) :
    t.written.toList = paddedDigits 4 t.date.year.toNat ++ '-' :: (paddedDigits 2 t.date.month ++
      '-' :: (paddedDigits 2 t.date.day ++ 'T' :: (paddedDigits 2 t.hour ++ ':' ::
        (paddedDigits 2 t.minute ++ ':' :: (paddedDigits 2 t.second ++
          ((fractionText t.nano).toList ++ ['Z'])))))) := by
  have hyear : yearText t.date.year = padded 4 t.date.year.toNat := if_pos ⟨hfrom, hto⟩
  simp [written, withZone, hyear, paddedDigits]

/-- A moment of the years 0 to 9999 is read back from its text. -/
theorem parse_written {t : Timestamp} (hfrom : 0 ≤ t.date.year) (hto : t.date.year ≤ 9999) :
    parse t.written = .ok t := by
  have hmonth := t.date.month_mem
  have hday := t.date.day_mem
  have hdays := daysIn_le t.date.year t.date.month
  have hyear : ((t.date.year.toNat : Nat) : Int) = t.date.year := Int.toNat_of_nonneg hfrom
  -- what stands between the parts, and behind the last one
  have hdash : ∀ rest, StopsDigits ('-' :: rest) := stopsDigits_cons rfl
  have hcolon : ∀ rest, StopsDigits (':' :: rest) := stopsDigits_cons rfl
  have hseparator : ∀ rest, StopsDigits ('T' :: rest) := stopsDigits_cons rfl
  have hzone : StopsDigits ['Z'] := stopsDigits_cons rfl []
  have hmarks : ∀ rest, readMark '-' ('-' :: rest) = .ok rest ∧ readMark ':' (':' :: rest) = .ok rest :=
    fun rest => ⟨readMark_cons rfl, readMark_cons rfl⟩
  have hoffset : readOffset (trimStart ['Z']) = .ok (0, []) := rfl
  rw [parse, toList_written t hfrom hto, parseChars]
  simp only [bind, Except.bind, hmarks, readSeparator_cons, hoffset,
    readYear_padded (Int.toNat_le.2 hto) (hdash _),
    readPart_padded hmonth.1 hmonth.2 (by decide) (hdash _),
    readPart_padded hday.1 (Nat.le_trans hday.2 hdays) (by decide) (hseparator _),
    readPart_padded (Nat.zero_le _) (Nat.le_of_lt_succ t.hour_lt) (by decide) (hcolon _),
    readPart_padded (Nat.zero_le _) (Nat.le_of_lt_succ t.minute_lt) (by decide) (hcolon _),
    readPart_padded (Nat.zero_le _) t.second_le (by decide)
      (stopsDigits_fractionText t.nano_lt hzone),
    readFraction_fractionText t.nano_lt hzone (by decide)]
  have hkept : isYear t.date.year = true := isYear_of_mem hfrom hto
  have hdone : (!(trimStart []).isEmpty) = false := rfl
  have hwithin : ¬1440 ≤ Int.natAbs 0 := by decide
  simp only [hyear, hkept, hdone, of?_date, Bool.not_true, Bool.false_eq_true, if_false,
    if_neg hwithin]
  rw [dif_pos ⟨t.second_le, t.nano_lt⟩]
  exact ofLocal_zero t hkept

end Timestamp
end Walkthrough
