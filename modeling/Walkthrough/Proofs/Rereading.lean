import Walkthrough.Proofs.Values

/-!
# Walkthrough.Proofs.Rereading

What was read of a document fits: it can be written, and what is written is read back as it was.

* `Schema.IsFaithful` says of a kind of documents that nothing is lost when they are written.
* `isRead_record`: a record is read field by field, whether from an object or from a list.
* `Schema.fits_of_read`, `Fields.fits_of_isRead`: what is read fits, one case for every kind of
  document.
-/

namespace Walkthrough
namespace Json

/-! ## Documents -/

mutual

/-- All floating point numbers of a document have a property. -/
def Schema.AllReals (P : Binary64 → Prop) : (s : Schema) → s.Denote → Prop
  | .text => fun _ => True
  | .path => fun _ => True
  | .flag => fun _ => True
  | .natural _ _ => fun _ => True
  | .integer => fun _ => True
  | .real => fun (x : Binary64) => P x
  | .any => fun (v : Value) => ∀ x ∈ v.reals, P x
  | .optional s => fun (a : Option s.Denote) => ∀ x, a = some x → s.AllReals P x
  | .list s => fun (xs : List s.Denote) => ∀ x ∈ xs, s.AllReals P x
  | .table s => fun (ms : List (String × s.Denote)) => ∀ m ∈ ms, s.AllReals P m.2
  | .choice _ _ _ => fun _ => True
  | .parsed _ _ _ _ => fun _ => True
  | .record _ fields => fun r => fields.AllReals P r

def Fields.AllReals (P : Binary64 → Prop) : (fs : Fields) → fs.Denote → Prop
  | .nil => fun _ => True
  | .required _ s rest => fun r => s.AllReals P r.1 ∧ rest.AllReals P r.2
  | .optional _ s rest => fun r => (∀ a, r.1 = some a → s.AllReals P a) ∧ rest.AllReals P r.2

end

mutual

/-- A kind of documents of which nothing is lost when they are written: no two fields of a record
have one name, and texts of a form are read back. -/
def Schema.IsFaithful : Schema → Prop
  | .optional s => s.IsFaithful
  | .list s => s.IsFaithful
  | .table s => s.IsFaithful
  | .parsed _ _ parse render => ∀ s a, parse s = .ok a → parse (render a) = .ok a
  | .record _ fields => fields.names.Nodup ∧ fields.IsFaithful
  | _ => True

def Fields.IsFaithful : Fields → Prop
  | .nil => True
  | .required _ s rest => s.IsFaithful ∧ rest.IsFaithful
  | .optional _ s rest => s.IsFaithful ∧ rest.IsFaithful

end

theorem mismatch_ne_ok {α : Type} {expected : String} {a : α} (d : Draft) :
    d.mismatch expected ≠ .ok a := by
  intro h
  cases d with
  | numeral m =>
    obtain ⟨n, -, h⟩ := ok_bind_iff.1 h
    cases h
  | string q =>
    obtain ⟨s, -, h⟩ := ok_bind_iff.1 h
    cases h
  | _ => cases h

theorem isRead_of_number? {expected : String} {d : Draft} {n : Number}
    (h : d.number? expected = .ok n) : n.IsRead := by
  unfold Draft.number? at h
  split at h
  · exact isRead_of_number h
  · exact absurd h (mismatch_ne_ok _)

theorem isFinite_realOf {n : Number} (h : n.IsRead) : (realOf n).isFinite = true := by
  cases n with
  | natural n => exact Binary64.isFinite_ofNat h
  | negative n =>
    have hbelow : n < twoTo 64 := Nat.lt_of_le_of_lt h.2 (by decide)
    exact Binary64.isFinite_ofNat hbelow
  | real x => exact h

theorem variantOf_name {α : Type} {all : List α} {name : α → String} {s : String} {a : α}
    (h : variantOf all name s = .ok a) : variantOf all name (name a) = .ok a := by
  unfold variantOf at h
  split at h
  · next hfind =>
    cases h
    have hname : name a = s := by simpa using List.find?_some hfind
    rw [variantOf, hname, hfind]
  · cases h

/-! ### Records -/

/-- Every field of a record was read. -/
def Fields.IsRead (depth : Nat) : (fs : Fields) → fs.Denote → Prop
  | .nil => fun _ => True
  | .required _ s rest => fun r => (∃ d, s.read depth d = .ok r.1) ∧ rest.IsRead depth r.2
  | .optional _ s rest => fun r =>
    (∀ a, r.1 = some a → ∃ d, s.read depth d = .ok a) ∧ rest.IsRead depth r.2

/-- What is known of each field of a record was read. -/
def Fields.AreRead (depth : Nat) : (fs : Fields) → fs.Slots → Prop
  | .nil => fun _ => True
  | .required _ s rest => fun r =>
    (∀ a, r.1 = some a → ∃ d, s.read depth d = .ok a) ∧ rest.AreRead depth r.2
  | .optional _ s rest => fun r =>
    (∀ a, r.1 = some a → ∃ d, s.read depth d = .ok a) ∧ rest.AreRead depth r.2

theorem Fields.areRead_empty (depth : Nat) : (fs : Fields) → fs.AreRead depth fs.empty
  | .nil => trivial
  | .required _ _ rest => ⟨nofun, rest.areRead_empty depth⟩
  | .optional _ _ rest => ⟨nofun, rest.areRead_empty depth⟩

theorem areRead_put_cons {depth : Nat} {key : String} {d : Draft} (name : String) (s : Schema)
    {rest : Fields} {slots slots' : (Fields.required name s rest).Slots}
    (hput : ∀ {slots slots' : rest.Slots}, rest.AreRead depth slots →
      rest.put depth key d slots = some (.ok slots') → rest.AreRead depth slots')
    (hslots : (Fields.required name s rest).AreRead depth slots)
    (h : (Fields.required name s rest).put depth key d slots = some (.ok slots')) :
    (Fields.required name s rest).AreRead depth slots' := by
  obtain ⟨slot, slots⟩ := slots
  obtain ⟨hslot, hslots⟩ := hslots
  rw [Fields.put] at h
  split at h
  · have h := Option.some.inj h
    split at h
    · cases h
    · obtain ⟨a, ha, rfl⟩ := ok_map_iff.1 h
      refine ⟨?_, hslots⟩
      rintro _ ⟨⟩
      exact ⟨d, ha⟩
  · obtain ⟨result, hresult, h⟩ := Option.map_eq_some_iff.1 h
    obtain ⟨slots', rfl, rfl⟩ := ok_map_iff.1 h
    exact ⟨hslot, hput hslots hresult⟩

/-- A member fills a slot with what is read of it, or changes none. -/
theorem Fields.areRead_put {depth : Nat} {key : String} {d : Draft} : (fs : Fields) →
    {slots slots' : fs.Slots} → fs.AreRead depth slots →
    fs.put depth key d slots = some (.ok slots') → fs.AreRead depth slots'
  | .nil, _, _, _, h => nomatch h
  | .required name s rest, _, _, hslots, h =>
    areRead_put_cons name s rest.areRead_put hslots h
  | .optional name s rest, _, _, hslots, h =>
    -- A field that may be left out is put like one that may not.
    areRead_put_cons name s rest.areRead_put hslots h

theorem Fields.areRead_take {depth : Nat} {fs : Fields} {slots slots' : fs.Slots}
    {m : Quoted × Draft} (hslots : fs.AreRead depth slots)
    (h : fs.take depth slots m = .ok slots') : fs.AreRead depth slots' := by
  obtain ⟨key, -, h⟩ := ok_bind_iff.1 h
  split at h
  · next result hput =>
    subst h
    exact fs.areRead_put hslots hput
  · obtain ⟨u, -, h⟩ := ok_bind_iff.1 h
    cases h
    exact hslots

theorem Fields.isRead_close {depth : Nat} : (fs : Fields) → {slots : fs.Slots} → {r : fs.Denote} →
    fs.AreRead depth slots → fs.close slots = .ok r → fs.IsRead depth r
  | .nil, _, _, _, _ => trivial
  | .required _ _ _, (none, _), _, _, h => nomatch h
  | .required name s rest, (some a, slots), r, ⟨hslot, hslots⟩, h => by
    obtain ⟨r', hr, h⟩ := ok_bind_iff.1 h
    cases h
    exact ⟨hslot a rfl, rest.isRead_close hslots hr⟩
  | .optional name s rest, (slot, slots), r, ⟨hslot, hslots⟩, h => by
    obtain ⟨r', hr, h⟩ := ok_bind_iff.1 h
    cases h
    exact ⟨hslot, rest.isRead_close hslots hr⟩

theorem Fields.isRead_readList {depth size : Nat} {record : String} {ending : Ending} :
    (fs : Fields) → {index : Nat} → {items left : List Draft} → {r : fs.Denote} →
    fs.readList depth record size ending index items = .ok (r, left) → fs.IsRead depth r
  | .nil, _, _, _, _, _ => trivial
  | .required _ s rest, _, [], _, _, h => by
    rw [Fields.readList] at h
    obtain ⟨u, -, h⟩ := ok_bind_iff.1 h
    cases h
  | .required _ s rest, _, d :: ds, _, _, h => by
    rw [Fields.readList] at h
    obtain ⟨a, ha, h⟩ := ok_bind_iff.1 h
    obtain ⟨⟨b, left⟩, hb, h⟩ := ok_bind_iff.1 h
    cases h
    exact ⟨⟨d, ha⟩, rest.isRead_readList hb⟩
  | .optional _ s rest, _, [], _, _, h => by
    rw [Fields.readList] at h
    obtain ⟨u, -, h⟩ := ok_bind_iff.1 h
    obtain ⟨⟨b, left⟩, hb, h⟩ := ok_bind_iff.1 h
    cases h
    exact ⟨nofun, rest.isRead_readList hb⟩
  | .optional _ s rest, _, d :: ds, _, _, h => by
    rw [Fields.readList] at h
    obtain ⟨a, ha, h⟩ := ok_bind_iff.1 h
    obtain ⟨⟨b, left⟩, hb, h⟩ := ok_bind_iff.1 h
    cases h
    refine ⟨?_, rest.isRead_readList hb⟩
    rintro _ ⟨⟩
    exact ⟨d, ha⟩

/-- What is read of a record, whether from an object or from a list, is read field by field. -/
theorem isRead_record {depth : Nat} {name : String} {fields : Fields} {d : Draft}
    {r : fields.Denote} (h : (Schema.record name fields).read depth d = .ok r) :
    depth + 1 < depthLimit ∧ fields.IsRead (depth + 1) r := by
  cases d with
  | object members ending =>
    obtain ⟨next, hnext, h⟩ := ok_bind_iff.1 h
    obtain ⟨rfl, hdepth⟩ := ok_of_deeper hnext
    obtain ⟨slots, hslots, h⟩ := ok_bind_iff.1 h
    obtain ⟨slots', hsame, h⟩ := ok_bind_iff.1 h
    obtain rfl := ok_of_orFault hsame
    have hread := foldlM_invariant (P := fields.AreRead (depth + 1))
      (f := fields.take (depth + 1)) (fun _ _ _ => fields.areRead_take)
      (fields.areRead_empty (depth + 1)) hslots
    exact ⟨hdepth, fields.isRead_close hread h⟩
  | list items ending =>
    obtain ⟨next, hnext, h⟩ := ok_bind_iff.1 h
    obtain ⟨rfl, hdepth⟩ := ok_of_deeper hnext
    obtain ⟨⟨r', left⟩, hread, h⟩ := ok_bind_iff.1 h
    change (if left.isEmpty then orFault r' ending.fullListFault?
      else .error .trailingCharacters) = .ok r at h
    split at h
    · obtain rfl := ok_of_orFault h
      exact ⟨hdepth, fields.isRead_readList hread⟩
    · cases h
  | numeral m => exact absurd h (mismatch_ne_ok (.numeral m))
  | string q => exact absurd h (mismatch_ne_ok (.string q))
  | _ => cases h

/-! ### All kinds -/

section Kinds

variable {depth : Nat} {d : Draft}

theorem fits_natural {bound n : Nat} {name : String}
    (h : (Schema.natural bound name).read depth d = .ok n) :
    (Schema.natural bound name).Fits depth n := by
  obtain ⟨m, hm, h⟩ := ok_bind_iff.1 h
  have hread := isRead_of_number? hm
  cases m with
  | natural m =>
    simp only [naturalOf] at h
    split at h
    · next hbound =>
      cases h
      exact ⟨hbound, hread⟩
    · cases h
  | negative m => cases h
  | real x => cases h

theorem fits_integer {n : Int} (h : Schema.integer.read depth d = .ok n) :
    Schema.integer.Fits depth n := by
  obtain ⟨m, hm, h⟩ := ok_bind_iff.1 h
  have hread := isRead_of_number? hm
  have hpos := twoTo_pos 63
  cases m with
  | natural m =>
    simp only [integerOf] at h
    split at h
    · next hbound =>
      cases h
      exact ⟨by omega, by omega⟩
    · cases h
  | negative m =>
    cases h
    have hbound := hread.2
    exact ⟨by omega, by omega⟩
  | real x => cases h

theorem isFinite_of_real {x : Binary64} (h : Schema.real.read depth d = .ok x) :
    x.isFinite = true := by
  obtain ⟨m, hm, h⟩ := ok_bind_iff.1 h
  cases h
  exact isFinite_realOf (isRead_of_number? hm)

theorem variantOf_of_choice {α : Type} {all : List α} {name : α → String} {a : α}
    (h : readChoice depth all name d = .ok a) : variantOf all name (name a) = .ok a := by
  unfold readChoice at h
  split at h
  · obtain ⟨s, -, hvariant⟩ := ok_bind_iff.1 h
    exact variantOf_name hvariant
  · obtain ⟨next, -, h⟩ := ok_bind_iff.1 h
    split at h
    · cases h
    · obtain ⟨s, -, h⟩ := ok_bind_iff.1 h
      obtain ⟨b, hvariant, h⟩ := ok_bind_iff.1 h
      split at h
      · split at h
        · cases h
          exact variantOf_name hvariant
        · split at h <;> cases h
      · exact absurd h (mismatch_ne_ok _)
  · cases h
  · cases h
  · cases h

theorem value_ne_null {v : Value} (hd : d ≠ .null) (h : d.value depth = .ok v) : v ≠ .null := by
  rintro rfl
  cases d with
  | null => exact hd rfl
  | boolean b => cases h
  | numeral m =>
    obtain ⟨n, -, h⟩ := ok_map_iff.1 h
    cases h
  | string q =>
    obtain ⟨s, -, h⟩ := ok_map_iff.1 h
    cases h
  | list items ending =>
    rw [Draft.value] at h
    obtain ⟨next, -, h⟩ := ok_bind_iff.1 h
    obtain ⟨vs, -, h⟩ := ok_bind_iff.1 h
    cases ok_of_orFault h
  | object members ending =>
    rw [Draft.value] at h
    obtain ⟨next, -, h⟩ := ok_bind_iff.1 h
    obtain ⟨ms, -, h⟩ := ok_bind_iff.1 h
    cases ok_of_orFault h
  | gap g => cases h

theorem read_optional_of_ne_null {s : Schema} (hd : d ≠ .null) :
    (Schema.optional s).read depth d = (s.read depth d).map some := by
  cases d with
  | null => exact absurd rfl hd
  | _ => rfl

/-- Only what is missing is written as null. -/
theorem Schema.toValue_ne_null : (s : Schema) → {a : s.Denote} → d ≠ .null →
    s.read depth d = .ok a → s.toValue a ≠ .null
  | .text, _, _, _ => nofun
  | .path, _, _, _ => nofun
  | .flag, _, _, _ => nofun
  | .natural _ _, _, _, _ => nofun
  | .integer, _, _, _ => nofun
  | .real, _, _, h => by
    rw [toValue_real (isFinite_of_real h)]
    nofun
  | .any, _, hd, h => value_ne_null hd h
  | .optional s, a, hd, h => by
    obtain ⟨b, hb, rfl⟩ := ok_map_iff.1 ((read_optional_of_ne_null hd).symm.trans h)
    exact s.toValue_ne_null hd hb
  | .list _, _, _, _ => nofun
  | .table _, _, _, _ => nofun
  | .choice _ _ _, _, _, _ => nofun
  | .parsed _ _ _ _, _, _, _ => nofun
  | .record _ _, _, _, _ => nofun

theorem read_of_optional {s : Schema} {a : s.Denote}
    (h : (Schema.optional s).read depth d = .ok (some a)) : d ≠ .null ∧ s.read depth d = .ok a := by
  have hd : d ≠ .null := by
    rintro rfl
    cases h
  obtain ⟨b, hb, hsame⟩ := ok_map_iff.1 ((read_optional_of_ne_null hd).symm.trans h)
  cases hsame
  exact ⟨hd, hb⟩

theorem read_of_list {s : Schema} {xs : List s.Denote} (h : (Schema.list s).read depth d = .ok xs) :
    depth + 1 < depthLimit ∧ ∀ x ∈ xs, ∃ d, s.read (depth + 1) d = .ok x := by
  cases d with
  | list items ending =>
    obtain ⟨next, hnext, h⟩ := ok_bind_iff.1 h
    obtain ⟨rfl, hdepth⟩ := ok_of_deeper hnext
    obtain ⟨xs', hxs, h⟩ := ok_bind_iff.1 h
    obtain rfl := ok_of_orFault h
    refine ⟨hdepth, fun x hx => ?_⟩
    obtain ⟨d, -, hd⟩ := exists_of_mapM hxs x hx
    exact ⟨d, hd⟩
  | numeral m => exact absurd h (mismatch_ne_ok (.numeral m))
  | string q => exact absurd h (mismatch_ne_ok (.string q))
  | _ => cases h

theorem read_of_table {s : Schema} {ms : List (String × s.Denote)}
    (h : (Schema.table s).read depth d = .ok ms) :
    depth + 1 < depthLimit ∧ orderMembers ms = ms ∧
      ∀ m ∈ ms, ∃ d, s.read (depth + 1) d = .ok m.2 := by
  cases d with
  | object members ending =>
    obtain ⟨next, hnext, h⟩ := ok_bind_iff.1 h
    obtain ⟨rfl, hdepth⟩ := ok_of_deeper hnext
    obtain ⟨read, hread, h⟩ := ok_bind_iff.1 h
    obtain rfl := ok_of_orFault h
    refine ⟨hdepth, orderMembers_of_isAscending (isAscending_orderMembers read), fun m hm => ?_⟩
    obtain ⟨member, -, hmember⟩ := exists_of_mapM hread m (mem_orderMembers hm)
    obtain ⟨key, -, hmember⟩ := ok_bind_iff.1 hmember
    obtain ⟨a, ha, hmember⟩ := ok_bind_iff.1 hmember
    cases hmember
    exact ⟨member.2, ha⟩
  | numeral m => exact absurd h (mismatch_ne_ok (.numeral m))
  | string q => exact absurd h (mismatch_ne_ok (.string q))
  | _ => cases h

theorem parse_of_parsed {α : Type} {expected : String} {parse : String → Except String α}
    {render : α → String} {a : α}
    (h : (Schema.parsed α expected parse render).read depth d = .ok a) :
    ∃ s, parse s = .ok a := by
  obtain ⟨s, -, h⟩ := ok_bind_iff.1 h
  unfold parsedText at h
  split at h
  · next hparse =>
    cases h
    exact ⟨s, hparse⟩
  · cases h

end Kinds

mutual

/-- What is read fits, if its floating point numbers are read back. -/
theorem Schema.fits_of_read (depth : Nat) : (s : Schema) → s.IsFaithful → {d : Draft} →
    {a : s.Denote} → s.read depth d = .ok a → s.AllReals ReadsBack a → s.Fits depth a
  | .text, _, _, _, _, _ => trivial
  | .path, _, _, _, _, _ => trivial
  | .flag, _, _, _, _, _ => trivial
  | .natural _ _, _, _, _, h, _ => fits_natural h
  | .integer, _, _, _, h, _ => fits_integer h
  | .real, _, _, _, h, hback =>
    have hfinite := isFinite_of_real h
    ⟨hfinite, hback hfinite⟩
  | .any, _, d, _, h, hreals => isStable_of_value depth d h hreals
  | .optional s, hfaithful, _, _, h, hreals => fun a ha => by
    obtain ⟨hd, hread⟩ := read_of_optional (ha ▸ h)
    exact ⟨s.toValue_ne_null hd hread, s.fits_of_read depth hfaithful hread (hreals a ha)⟩
  | .list s, hfaithful, _, _, h, hreals => by
    obtain ⟨hdepth, hitems⟩ := read_of_list h
    refine ⟨hdepth, fun x hx => ?_⟩
    obtain ⟨d, hread⟩ := hitems x hx
    exact s.fits_of_read (depth + 1) hfaithful hread (hreals x hx)
  | .table s, hfaithful, _, _, h, hreals => by
    obtain ⟨hdepth, horder, hmembers⟩ := read_of_table h
    refine ⟨hdepth, horder, fun m hm => ?_⟩
    obtain ⟨d, hread⟩ := hmembers m hm
    exact s.fits_of_read (depth + 1) hfaithful hread (hreals m hm)
  | .choice _ _ _, _, _, _, h, _ => variantOf_of_choice h
  | .parsed _ _ _ _, hfaithful, _, a, h, _ => by
    obtain ⟨s, hparse⟩ := parse_of_parsed h
    exact hfaithful s a hparse
  | .record _ fields, ⟨hnames, hfaithful⟩, _, _, h, hreals => by
    obtain ⟨hdepth, hread⟩ := isRead_record h
    exact ⟨hdepth, hnames, fields.fits_of_isRead (depth + 1) hfaithful hread hreals⟩

theorem Fields.fits_of_isRead (depth : Nat) : (fs : Fields) → fs.IsFaithful → {r : fs.Denote} →
    fs.IsRead depth r → fs.AllReals ReadsBack r → fs.Fits depth r
  | .nil, _, _, _, _ => trivial
  | .required _ s rest, ⟨hs, hrest⟩, _, ⟨hfirst, hread⟩, ⟨hreal, hreals⟩ => by
    obtain ⟨d, hd⟩ := hfirst
    exact ⟨s.fits_of_read depth hs hd hreal, rest.fits_of_isRead depth hrest hread hreals⟩
  | .optional _ s rest, ⟨hs, hrest⟩, _, ⟨hfirst, hread⟩, ⟨hreal, hreals⟩ => by
    refine ⟨fun a ha => ?_, rest.fits_of_isRead depth hrest hread hreals⟩
    obtain ⟨d, hd⟩ := hfirst a ha
    exact s.fits_of_read depth hs hd (hreal a ha)

end

/-- A document that was accepted fits, if its floating point numbers are read back. -/
theorem Schema.fits_of_parse {s : Schema} (hfaithful : s.IsFaithful) {text : String} {a : s.Denote}
    (h : s.parse text = .ok a) (hreals : s.AllReals ReadsBack a) : s.Fits 0 a := by
  obtain ⟨b, hread, h⟩ := ok_bind_iff.1 h
  split at h
  · cases h
  · cases h
    exact s.fits_of_read 0 hfaithful hread hreals

end Json
end Walkthrough
