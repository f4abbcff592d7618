import Mathlib.Data.List.Basic
import Walkthrough.Json.Printer
import Walkthrough.Proofs.Numerals

/-!
# Walkthrough.Proofs.Tokens

The text of a value is cut into the tokens of the value.

* `scanString_quote`, `text_quoted`: a string is read as it was before it was quoted.
* `Scans`: a text begins with some tokens, and then goes on with another text.
* `Value.induct`: the induction on values and all that they hold.
* `scans_pretty`: what is written for a value over several lines begins with its tokens.
-/

namespace Walkthrough
namespace Json

/-! ## Strings -/

/-- How a character of a string is written: control characters without an escape of their own in
hexadecimal, all others so that they stand for themselves. -/
def pieceOf (c : Char) : Piece :=
  if c = '\n' ∨ c = '\r' ∨ c = '\t' ∨ c.toNat = 0x08 ∨ c.toNat = 0x0C then .plain c
  else if c.toNat < 0x20 then .unit c.toNat
  else .plain c

/-- A string as it is written. -/
def quoted (s : String) : Quoted := ⟨s.toList.map pieceOf, .closed⟩

/-- The two hexadecimal digits of a control character. -/
theorem hex4?_hex2 {n : Nat} (hn : n < 0x20) :
    ∃ a b, hex2 n = [a, b] ∧ hex4? '0' '0' a b = some n := by
  have hall : ∀ n < 0x20, (hex2 n).length = 2 ∧ Text.hexNumber? ('0' :: '0' :: hex2 n) = some n := by
    decide
  obtain ⟨hlength, hnumber⟩ := hall n hn
  obtain ⟨a, b, hdigits⟩ := List.length_eq_two.1 hlength
  exact ⟨a, b, hdigits, by rwa [hdigits] at hnumber⟩

theorem eq_ofNat_of_toNat {c : Char} {n : Nat} (h : c.toNat = n) : c = Char.ofNat n := by
  rw [← h, Char.ofNat_toNat]

theorem scanString_escapeChar (c : Char) (cs : List Char) :
    scanString (escapeChar c ++ cs) =
      (⟨pieceOf c :: (scanString cs).1.pieces, (scanString cs).1.ending⟩, (scanString cs).2) := by
  by_cases hquote : c = '"'
  · subst hquote
    rfl
  by_cases hslash : c = '\\'
  · subst hslash
    rfl
  by_cases hn : c = '\n'
  · subst hn
    rfl
  by_cases hr : c = '\r'
  · subst hr
    rfl
  by_cases ht : c = '\t'
  · subst ht
    rfl
  by_cases hb : c.toNat = 0x08
  · obtain rfl := eq_ofNat_of_toNat hb
    rfl
  by_cases hf : c.toNat = 0x0C
  · obtain rfl := eq_ofNat_of_toNat hf
    rfl
  by_cases hcontrol : c.toNat < 0x20
  · obtain ⟨a, b, hdigits, hnumber⟩ := hex4?_hex2 hcontrol
    simp [escapeChar, pieceOf, hquote, hslash, hn, hr, ht, hb, hf, hcontrol, hdigits, scanString,
      hnumber]
  · simp [escapeChar, pieceOf, hquote, hslash, hn, hr, ht, hb, hf, hcontrol, scanString]

/-- A quoted string is cut into its pieces. -/
theorem scanString_quote (s : String) (rest : List Char) :
    scanString (s.toList.flatMap escapeChar ++ '"' :: rest) = (quoted s, rest) := by
  unfold quoted
  induction s.toList with
  | nil => rfl
  | cons c cs ih =>
    rw [List.flatMap_cons, List.append_assoc, scanString_escapeChar, ih]
    rfl

theorem pieceChars_pieceOf (c : Char) (ps : List Piece) :
    pieceChars .closed (pieceOf c :: ps) = (pieceChars .closed ps).map (c :: ·) := by
  unfold pieceOf
  split
  · rfl
  · split
    · next hcontrol =>
      have hlow : ¬ (0xDC00 ≤ c.toNat ∧ c.toNat ≤ 0xDFFF) := by omega
      have hlead : ¬ (0xD800 ≤ c.toNat ∧ c.toNat ≤ 0xDBFF) := by omega
      rw [pieceChars.eq_def]
      simp only [if_neg hlow, if_neg hlead, Char.ofNat_toNat]
      rfl
    · rfl

/-- A string is read as it was before it was quoted. -/
theorem text_quoted (s : String) : (quoted s).text = .ok s := by
  have hchars (cs : List Char) : pieceChars .closed (cs.map pieceOf) = .ok cs := by
    induction cs with
    | nil => rfl
    | cons c cs ih => rw [List.map_cons, pieceChars_pieceOf, ih, Except.map]
  rw [Quoted.text, quoted, hchars, Except.map, String.ofList_toList]

/-! ## The tokens of a value -/

/-- The induction on values: what holds of a list or an object when it holds of all that is in it,
holds of every value. -/
@[elab_as_elim]
theorem Value.induct {P : Value → Prop} (null : P .null) (boolean : ∀ b, P (.boolean b))
    (number : ∀ n, P (.number n)) (text : ∀ s, P (.text s))
    (array : ∀ vs, (∀ v ∈ vs, P v) → P (.array vs))
    (object : ∀ ms : List (String × Value), (∀ m ∈ ms, P m.2) → P (.object ms)) (v : Value) : P v :=
  @Value.rec P (fun vs => ∀ v ∈ vs, P v) (fun ms => ∀ m ∈ ms, P m.2) (fun m => P m.2) null boolean
    number text array object (List.forall_mem_nil _)
    (fun _ _ hv hvs => List.forall_mem_cons.2 ⟨hv, hvs⟩) (List.forall_mem_nil _)
    (fun _ _ hm hms => List.forall_mem_cons.2 ⟨hm, hms⟩) (fun _ _ hv => hv) v

mutual

/-- The tokens of a value. -/
def Value.tokens : Value → List Token
  | .null => [.null]
  | .boolean b => [.boolean b]
  | .number n => [.numeral n.numeral]
  | .text s => [.string (quoted s)]
  | .array [] => [.openList, .closeList]
  | .array (v :: vs) => .openList :: (v.tokens ++ itemTokens vs)
  | .object [] => [.openObject, .closeObject]
  | .object ((k, v) :: ms) =>
    .openObject :: .string (quoted k) :: .colon :: (v.tokens ++ memberTokens ms)

/-- The tokens of the items after the first, and the closing bracket. -/
def itemTokens : List Value → List Token
  | [] => [.closeList]
  | v :: vs => .comma :: (v.tokens ++ itemTokens vs)

/-- The tokens of the members after the first, and the closing brace. -/
def memberTokens : List (String × Value) → List Token
  | [] => [.closeObject]
  | (k, v) :: ms => .comma :: .string (quoted k) :: .colon :: (v.tokens ++ memberTokens ms)

end

/-- All numbers in a value have numerals. -/
inductive Value.IsFinite : Value → Prop where
  | null : Value.IsFinite .null
  | boolean (b : Bool) : Value.IsFinite (.boolean b)
  | number {n : Number} : n.IsFinite → Value.IsFinite (.number n)
  | text (s : String) : Value.IsFinite (.text s)
  | array {vs : List Value} : (∀ v ∈ vs, v.IsFinite) → Value.IsFinite (.array vs)
  | object {ms : List (String × Value)} : (∀ m ∈ ms, m.2.IsFinite) → Value.IsFinite (.object ms)

/-! ## Scanning -/

/-- A text begins with some tokens and then goes on with another, whatever the fuel, as long as
there is some for every character. -/
def Scans (cs rest : List Char) (ts : List Token) : Prop :=
  ∀ fuel, cs.length ≤ fuel →
    ∃ left, rest.length ≤ left ∧ scanTokens fuel cs = ts ++ scanTokens left rest

namespace Scans

variable {cs rest rest' : List Char} {ts us : List Token}

theorem append (h : Scans cs rest ts) (h' : Scans rest rest' us) : Scans cs rest' (ts ++ us) := by
  intro fuel hfuel
  obtain ⟨left, hleft, hscan⟩ := h fuel hfuel
  obtain ⟨left', hleft', hscan'⟩ := h' left hleft
  exact ⟨left', hleft', by rw [hscan, hscan', List.append_assoc]⟩

theorem token {t : Token} (hlength : rest.length < cs.length)
    (h : ∀ fuel, scanTokens (fuel + 1) cs = t :: scanTokens fuel rest) : Scans cs rest [t] := by
  intro fuel hfuel
  cases fuel with
  | zero => omega
  | succ fuel => exact ⟨fuel, by omega, h fuel⟩

/-- Blanks in front mean nothing. -/
theorem gap {blanks : List Char} (hblanks : ∀ c ∈ blanks, isGap c = true) (h : Scans cs rest ts) :
    Scans (blanks ++ cs) rest ts := by
  intro fuel hfuel
  rw [List.length_append] at hfuel
  obtain ⟨left, hleft, hscan⟩ := h fuel (by omega)
  refine ⟨left, hleft, ?_⟩
  rw [← hscan]
  cases fuel with
  | zero => rfl
  | succ fuel =>
    simp only [scanTokens]
    rw [List.dropWhile_append_of_pos hblanks]

theorem newLine {level : Nat} (h : Scans cs rest ts) : Scans (newLine level ++ cs) rest ts := by
  refine gap ?_ h
  unfold Json.newLine
  simp [isGap]

theorem string (s : String) (rest : List Char) :
    Scans (quoteChars s ++ rest) rest [.string (quoted s)] := by
  have hchars : quoteChars s ++ rest = '"' :: (s.toList.flatMap escapeChar ++ '"' :: rest) := by
    simp [quoteChars]
  rw [hchars]
  refine token ?_ fun fuel => ?_
  · simp only [List.length_cons, List.length_append]
    omega
  · have hscan : ∀ cs, scanTokens (fuel + 1) ('"' :: cs) = .string (scanString cs).1 ::
        (if (scanString cs).1.ending = .closed then scanTokens fuel (scanString cs).2 else []) :=
      fun _ => rfl
    rw [hscan, scanString_quote]
    rfl

theorem scanTokens_numeral {c : Char} (hc : c = '-' ∨ c.isDigit = true) {m : Numeral}
    (hscan : scanNumeral (c :: cs) = .ok (m, rest)) (fuel : Nat) :
    scanTokens (fuel + 1) (c :: cs) = .numeral m :: scanTokens fuel rest := by
  have hgap : isGap c = false := by
    rcases hc with rfl | hc
    · rfl
    · by_contra hgap
      simp only [isGap, Bool.not_eq_false, Bool.or_eq_true, decide_eq_true_eq] at hgap
      rcases hgap with ((rfl | rfl) | rfl) | rfl <;> exact absurd hc (by decide)
  simp only [scanTokens, List.dropWhile_cons_of_neg (by simp [hgap] : ¬ isGap c = true)]
  split
  case h_1 heq => cases heq
  case h_12 heq =>
    obtain ⟨rfl, rfl⟩ := List.cons.inj heq
    rw [if_pos hc, hscan]
  all_goals
    next heq =>
    -- The character that is expected here starts no numeral.
    obtain ⟨rfl, -⟩ := List.cons.inj heq
    exact absurd hc (by decide)

theorem number {n : Number} (hn : n.IsFinite) (hrest : StopsNumeral rest) :
    Scans (n.text.toList ++ rest) rest [.numeral n.numeral] := by
  obtain ⟨hproper, htext⟩ := Number.isProper_numeral hn
  have hscan := scanNumeral_chars hproper hrest
  rw [htext]
  obtain ⟨c, cs, hcs, hc⟩ : ∃ c cs, n.numeral.chars = c :: cs ∧ (c = '-' ∨ c.isDigit = true) := by
    obtain ⟨d, ds, hds⟩ := List.exists_cons_of_ne_nil hproper.whole.ne_nil
    have hd := hproper.whole.all d (by rw [hds]; exact List.mem_cons_self)
    simp only [Numeral.chars, hds]
    cases n.numeral.negative with
    | true => exact ⟨_, _, rfl, .inl rfl⟩
    | false => exact ⟨_, _, rfl, .inr hd⟩
  rw [hcs, List.cons_append] at hscan ⊢
  refine token ?_ (scanTokens_numeral hc hscan)
  simp only [List.length_cons, List.length_append]
  omega

end Scans

/-! ## What is printed -/

section Pretty

variable {level : Nat} {rest : List Char}

theorem stopsNumeral_prettyItems (level : Nat) (vs : List Value) (rest : List Char) :
    StopsNumeral (prettyItems level vs ++ rest) := by
  cases vs <;> simp [StopsNumeral, prettyItems, newLine]

theorem stopsNumeral_prettyMembers (level : Nat) (ms : List (String × Value)) (rest : List Char) :
    StopsNumeral (prettyMembers level ms ++ rest) := by
  cases ms <;> simp [StopsNumeral, prettyMembers, newLine]

/-- What is written for a value begins with its tokens. -/
def PrintsTokens (v : Value) : Prop :=
  ∀ level rest, StopsNumeral rest → Scans (prettyChars level v ++ rest) rest v.tokens

theorem scans_prettyItems {vs : List Value} (hvs : ∀ v ∈ vs, PrintsTokens v) (level : Nat)
    (rest : List Char) : Scans (prettyItems level vs ++ rest) rest (itemTokens vs) := by
  induction vs with
  | nil =>
    simp only [prettyItems, itemTokens, List.append_assoc]
    exact (Scans.token (Nat.lt_succ_self _) fun _ => rfl).newLine
  | cons v vs ih =>
    obtain ⟨hv, hvs⟩ := List.forall_mem_cons.1 hvs
    have hcomma : Scans (',' :: (newLine (level + 1) ++ (prettyChars (level + 1) v ++
        (prettyItems level vs ++ rest)))) _ [.comma] :=
      Scans.token (Nat.lt_succ_self _) fun _ => rfl
    simp only [prettyItems, itemTokens, List.cons_append, List.append_assoc]
    exact hcomma.append
      ((hv _ _ (stopsNumeral_prettyItems level vs rest)).append (ih hvs)).newLine

/-- A key, a colon and a value. -/
theorem scans_member {k : String} {v : Value} (hv : PrintsTokens v) (level : Nat)
    (hrest : StopsNumeral rest) :
    Scans (newLine level ++ (quoteChars k ++ ':' :: ' ' :: (prettyChars level v ++ rest))) rest
      (.string (quoted k) :: .colon :: v.tokens) := by
  have hcolon : Scans (':' :: ' ' :: (prettyChars level v ++ rest))
      (' ' :: (prettyChars level v ++ rest)) [.colon] :=
    Scans.token (Nat.lt_succ_self _) fun _ => rfl
  have hblank : Scans ([' '] ++ (prettyChars level v ++ rest)) rest v.tokens :=
    (hv level rest hrest).gap (by simp [isGap])
  exact ((Scans.string k _).append (hcolon.append hblank)).newLine

theorem scans_prettyMembers {ms : List (String × Value)} (hms : ∀ m ∈ ms, PrintsTokens m.2)
    (level : Nat) (rest : List Char) :
    Scans (prettyMembers level ms ++ rest) rest (memberTokens ms) := by
  induction ms with
  | nil =>
    simp only [prettyMembers, memberTokens, List.append_assoc]
    exact (Scans.token (Nat.lt_succ_self _) fun _ => rfl).newLine
  | cons m ms ih =>
    obtain ⟨k, v⟩ := m
    obtain ⟨hv, hms⟩ := List.forall_mem_cons.1 hms
    have hcomma : Scans (',' :: (newLine (level + 1) ++ (quoteChars k ++ ':' :: ' ' ::
        (prettyChars (level + 1) v ++ (prettyMembers level ms ++ rest))))) _ [.comma] :=
      Scans.token (Nat.lt_succ_self _) fun _ => rfl
    have hmember := scans_member (k := k) hv (level + 1) (stopsNumeral_prettyMembers level ms rest)
    simp only [prettyMembers, memberTokens, List.cons_append, List.append_assoc]
    exact hcomma.append (hmember.append (ih hms))

theorem scans_word {word : List Char} {t : Token} (hword : word ≠ [])
    (h : ∀ fuel rest, scanTokens (fuel + 1) (word ++ rest) = t :: scanTokens fuel rest) :
    Scans (word ++ rest) rest [t] := by
  refine Scans.token ?_ fun fuel => h fuel rest
  have := List.length_pos_iff.2 hword
  simp only [List.length_append]
  omega

/-- What is written for a value over several lines begins with its tokens. -/
theorem scans_pretty {v : Value} (h : v.IsFinite) : PrintsTokens v := by
  induction h with
  | null => exact fun _ _ _ => scans_word (List.cons_ne_nil _ _) fun _ _ => rfl
  | boolean b =>
    intro level rest _
    cases b with
    | true => exact scans_word (List.cons_ne_nil _ _) fun _ _ => rfl
    | false => exact scans_word (List.cons_ne_nil _ _) fun _ _ => rfl
  | number hn => exact fun level rest hrest => Scans.number hn hrest
  | text s => exact fun level rest _ => Scans.string s rest
  | @array vs hvs ih =>
    intro level rest hrest
    have hopen (cs : List Char) : Scans ('[' :: cs) cs [.openList] :=
      Scans.token (Nat.lt_succ_self _) fun _ => rfl
    cases vs with
    | nil => exact (hopen _).append (Scans.token (Nat.lt_succ_self _) fun _ => rfl)
    | cons v vs =>
      obtain ⟨hv, hvs⟩ := List.forall_mem_cons.1 ih
      simp only [prettyChars, Value.tokens, List.cons_append, List.append_assoc]
      exact (hopen _).append ((hv _ _ (stopsNumeral_prettyItems level vs rest)).append
        (scans_prettyItems hvs level rest)).newLine
  | @object ms hms ih =>
    intro level rest hrest
    have hopen (cs : List Char) : Scans ('{' :: cs) cs [.openObject] :=
      Scans.token (Nat.lt_succ_self _) fun _ => rfl
    cases ms with
    | nil => exact (hopen _).append (Scans.token (Nat.lt_succ_self _) fun _ => rfl)
    | cons m ms =>
      obtain ⟨k, v⟩ := m
      obtain ⟨hv, hms⟩ := List.forall_mem_cons.1 ih
      simp only [prettyChars, Value.tokens, List.cons_append, List.append_assoc]
      exact (hopen _).append ((scans_member hv (level + 1)
        (stopsNumeral_prettyMembers level ms rest)).append (scans_prettyMembers hms level rest))

/-- The text of a value is cut into its tokens. -/
theorem scan_pretty {v : Value} (h : v.IsFinite) : scan (pretty v) = v.tokens := by
  obtain ⟨left, -, hscan⟩ := scans_pretty h 0 [] (fun _ hc => by cases hc) _ (Nat.le_refl _)
  have hnil : scanTokens left [] = [] := by cases left <;> rfl
  rw [List.append_nil, hnil, List.append_nil] at hscan
  rw [scan, pretty, String.toList_ofList, String.length_ofList, hscan]

end Pretty

end Json
end Walkthrough
