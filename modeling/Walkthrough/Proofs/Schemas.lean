import Walkthrough.Json.Schema
import Walkthrough.Proofs.Drafts

/-!
# Walkthrough.Proofs.Schemas

What is written by a schema is read back by it, when it fits.

* `Schema.Fits` says what a document has to keep to: bounds of numbers, forms of texts, the limit of
  nesting, and that no two fields of a record have one name.
* `Schema.read_draft`, `Fields.foldlM_take`: the draft of what is written is read as it was, one case
  for every kind of document.
* `Schema.parse_pretty`: so is its text.
-/

namespace Walkthrough
namespace Json

/-! ## What fits -/

/-- The text of a number stands for the same number. -/
def IsReadBack (x : Binary64) : Prop := parse (x.written layout) = .ok (.number (.real x))

/-- The names of the fields of a record. -/
def Fields.names : Fields → List String
  | .nil => []
  | .required name _ rest => name :: rest.names
  | .optional name _ rest => name :: rest.names

mutual

/-- Does a document fit, at the given depth of nesting? -/
def Schema.Fits (depth : Nat) : (s : Schema) → s.Denote → Prop
  | .text => fun _ => True
  | .path => fun _ => True
  | .flag => fun _ => True
  | .natural bound _ => fun (n : Nat) => n < bound ∧ n < twoTo 64
  | .integer => fun (n : Int) => -(twoTo 63 : Int) ≤ n ∧ n < (twoTo 63 : Int)
  | .real => fun (x : Binary64) => x.isFinite = true ∧ IsReadBack x
  | .any => fun (v : Value) => v.IsFinite ∧ v.draft.value depth = .ok v
  | .optional s => fun (a : Option s.Denote) =>
    ∀ x, a = some x → s.toValue x ≠ .null ∧ s.Fits depth x
  | .list s => fun (xs : List s.Denote) =>
    depth + 1 < depthLimit ∧ ∀ x ∈ xs, s.Fits (depth + 1) x
  | .table s => fun (ms : List (String × s.Denote)) =>
    depth + 1 < depthLimit ∧ orderMembers ms = ms ∧ ∀ m ∈ ms, s.Fits (depth + 1) m.2
  | .choice _ all name => fun a => variantOf all name (name a) = .ok a
  | .parsed _ _ parse render => fun a => parse (render a) = .ok a
  | .record _ fields => fun r =>
    depth + 1 < depthLimit ∧ fields.names.Nodup ∧ fields.Fits (depth + 1) r

/-- Do all fields of a record fit? -/
def Fields.Fits (depth : Nat) : (fs : Fields) → fs.Denote → Prop
  | .nil => fun _ => True
  | .required _ s rest => fun r => s.Fits depth r.1 ∧ rest.Fits depth r.2
  | .optional _ s rest => fun r => (∀ a, r.1 = some a → s.Fits depth a) ∧ rest.Fits depth r.2

end

/-! ## Records -/

/-- One member further in a record. -/
def Fields.take (depth : Nat) (fs : Fields) (slots : fs.Slots) (m : Quoted × Draft) :
    Except Fault fs.Slots := do
  let key ← m.1.text
  match fs.put depth key m.2 slots with
  | some result => result
  | none => do
    skip m.2
    return slots

/-- The slots of a record, all of them filled. -/
def Fields.filled : (fs : Fields) → fs.Denote → fs.Slots
  | .nil, _ => ()
  | .required _ _ rest, (a, r) => (some a, rest.filled r)
  | .optional _ _ rest, (a, r) => (a, rest.filled r)

theorem Fields.close_filled : (fs : Fields) → (r : fs.Denote) → fs.close (fs.filled r) = .ok r
  | .nil, _ => rfl
  | .required _ _ rest, (a, r) => by
    simp only [Fields.close, Fields.filled, rest.close_filled r]
    rfl
  | .optional _ _ rest, (a, r) => by
    simp only [Fields.close, Fields.filled, rest.close_filled r]
    rfl

theorem Fields.mem_names : (fs : Fields) → (r : fs.Denote) → ∀ m ∈ fs.toMembers r, m.1 ∈ fs.names
  | .nil, _ => List.forall_mem_nil _
  | .required name _ rest, (_, r) => List.forall_mem_cons.2
      ⟨List.mem_cons_self, fun m hm => List.mem_cons_of_mem name (rest.mem_names r m hm)⟩
  | .optional name _ rest, (none, r) => fun m hm =>
      List.mem_cons_of_mem name (rest.mem_names r m hm)
  | .optional name _ rest, (some _, r) => List.forall_mem_cons.2
      ⟨List.mem_cons_self, fun m hm => List.mem_cons_of_mem name (rest.mem_names r m hm)⟩

section Take

variable {depth : Nat} {name : String} {s : Schema} {rest : Fields}

/-- A field that may be left out is read like one that may not. -/
theorem take_optional (depth : Nat) (name : String) (s : Schema) (rest : Fields) :
    (Fields.optional name s rest).take depth = (Fields.required name s rest).take depth := by
  funext slots m
  have hput : ∀ key, (Fields.optional name s rest).put depth key m.2 slots =
      (Fields.required name s rest).put depth key m.2 slots := fun _ => rfl
  simp only [Fields.take, bind, Except.bind]
  cases m.1.text with
  | error f => rfl
  | ok key =>
    cases hresult : (Fields.required name s rest).put depth key m.2 slots with
    | none =>
      simp only [(hput key).trans hresult, hresult]
      rfl
    | some result =>
      simp only [(hput key).trans hresult, hresult]
      rfl

/-- A member of another name than the first field goes to the fields behind it. -/
theorem take_of_ne {m : String × Value} (h : m.1 ≠ name) (slot : Option s.Denote)
    (slots : rest.Slots) :
    (Fields.required name s rest).take depth (slot, slots) (quoted m.1, m.2.draft) =
      (rest.take depth slots (quoted m.1, m.2.draft)).map fun slots => (slot, slots) := by
  simp only [Fields.take, text_quoted, bind, Except.bind, Fields.put, if_neg h]
  cases rest.put depth m.1 m.2.draft slots with
  | none => cases skip m.2.draft <;> rfl
  | some result => rfl

theorem foldlM_pair {σ τ : Type} {f : σ → Quoted × Draft → Except Fault σ}
    {g : τ × σ → Quoted × Draft → Except Fault (τ × σ)} {t : τ} {ms : List (String × Value)}
    (h : ∀ m ∈ ms, ∀ slots, g (t, slots) (quoted m.1, m.2.draft) =
      (f slots (quoted m.1, m.2.draft)).map fun slots => (t, slots)) (slots : σ) :
    (memberDrafts ms).foldlM g (t, slots) =
      ((memberDrafts ms).foldlM f slots).map fun slots => (t, slots) := by
  induction ms generalizing slots with
  | nil => rfl
  | cons m ms ih =>
    obtain ⟨hm, hms⟩ := List.forall_mem_cons.1 h
    rw [memberDrafts, List.foldlM_cons, List.foldlM_cons, hm slots]
    cases f slots (quoted m.1, m.2.draft) with
    | error e => rfl
    | ok slots => exact ih hms slots

theorem foldlM_cons_ok {σ : Type} {g : σ → Quoted × Draft → Except Fault σ} {slots filled : σ}
    {m : Quoted × Draft} {ms : List (Quoted × Draft)} (h : g slots m = .ok filled) :
    (m :: ms).foldlM g slots = ms.foldlM g filled := by
  rw [List.foldlM_cons, h]
  rfl

/-- A member of the name of the first field fills its slot. -/
theorem take_first {v : Value} {a : s.Denote} (h : s.read depth v.draft = .ok a)
    (slots : rest.Slots) :
    (Fields.required name s rest).take depth (none, slots) (quoted name, v.draft) =
      .ok (some a, slots) := by
  simp [Fields.take, text_quoted, bind, Except.bind, Fields.put, h, Except.map]

end Take

/-! ## Documents

Each kind of document is read by computing with its reader (`change`), not by the equations of
`Schema.read`, which has all kinds in one.
-/

section Read

variable {depth : Nat}

/-- The text of a number stands for the same number when its numeral does. -/
theorem isReadBack_iff {x : Binary64} (hfinite : x.isFinite = true) :
    IsReadBack x ↔ (Number.real x).numeral.number = .ok (.real x) := by
  have hparse : parse (x.written layout) = (Number.real x).numeral.number.map .number := by
    have htext : pretty (.number (.real x)) = x.written layout := by
      rw [pretty, prettyChars, String.ofList_toList, Number.text]
    rw [← htext]
    exact readWith_pretty _ (.number hfinite)
  rw [IsReadBack, hparse]
  cases (Number.real x).numeral.number <;> simp [Except.map]

theorem read_natural {bound n : Nat} (name : String) (h : n < bound) (hn : n < twoTo 64) :
    (Schema.natural bound name).read depth (Value.number (.natural n)).draft = .ok n := by
  have hnumber : (Number.natural n).numeral.number = .ok (.natural n) :=
    (congrArg Numeral.number (Number.numeral_natural n)).trans (number_ofNat hn)
  change (Number.natural n).numeral.number.bind (naturalOf bound name) = .ok n
  rw [hnumber]
  exact if_pos h

theorem number_ofInt {n : Int} (hlow : -(twoTo 63 : Int) ≤ n) (hhigh : n < (twoTo 63 : Int)) :
    (Number.ofInt n).numeral.number = .ok (.ofInt n) := by
  have hlarger : twoTo 64 = twoTo 63 * 2 := twoTo_succ 63
  by_cases hneg : n < 0
  · rw [Number.ofInt, if_pos hneg, Number.numeral_negative]
    exact number_ofNat_negative (by omega) (by omega)
  · rw [Number.ofInt, if_neg hneg, Number.numeral_natural]
    exact number_ofNat (by omega)

theorem integerOf_ofInt {n : Int} (hhigh : n < (twoTo 63 : Int)) :
    integerOf (.ofInt n) = .ok n := by
  by_cases hneg : n < 0
  · rw [Number.ofInt, if_pos hneg, integerOf]
    exact congrArg Except.ok (by omega)
  · rw [Number.ofInt, if_neg hneg, integerOf, if_pos (by omega)]
    exact congrArg Except.ok (by omega)

theorem read_integer {n : Int} (hlow : -(twoTo 63 : Int) ≤ n) (hhigh : n < (twoTo 63 : Int)) :
    Schema.integer.read depth (Value.number (.ofInt n)).draft = .ok n := by
  change (Number.ofInt n).numeral.number.bind integerOf = .ok n
  rw [number_ofInt hlow hhigh]
  exact integerOf_ofInt hhigh

theorem toValue_real {x : Binary64} (hfinite : x.isFinite = true) :
    Schema.real.toValue x = .number (.real x) := if_pos hfinite

theorem read_real {x : Binary64} (hfinite : x.isFinite = true) (h : IsReadBack x) :
    Schema.real.read depth (Schema.real.toValue x).draft = .ok x := by
  rw [toValue_real hfinite]
  change (Number.real x).numeral.number.bind (fun n => .ok (realOf n)) = .ok x
  rw [(isReadBack_iff hfinite).1 h]
  rfl

theorem read_optional {s : Schema} {v : Value} (h : v ≠ .null) :
    (Schema.optional s).read depth v.draft = (s.read depth v.draft).map some := by
  cases v with
  | null => exact absurd rfl h
  | _ => rfl

/-- Below the limit of nesting, reading goes on one level deeper. -/
theorem deeper_bind {α : Type} {f : Nat → Except Fault α} (h : depth + 1 < depthLimit) :
    (deeper depth).bind f = f (depth + 1) := by
  rw [deeper, if_pos h]
  rfl

theorem mapM_of_forall {α β : Type} {f : β → Except Fault α} {g : α → β} {xs : List α}
    (h : ∀ x ∈ xs, f (g x) = .ok x) : (xs.map g).mapM f = .ok xs := by
  induction xs with
  | nil => rfl
  | cons x xs ih =>
    obtain ⟨hx, hxs⟩ := List.forall_mem_cons.1 h
    rw [List.map_cons, List.mapM_cons, hx, ih hxs]
    rfl

theorem read_list {s : Schema} {xs : List s.Denote} (hdepth : depth + 1 < depthLimit)
    (h : ∀ x ∈ xs, s.read (depth + 1) (s.toValue x).draft = .ok x) :
    (Schema.list s).read depth (Value.array (xs.map s.toValue)).draft = .ok xs := by
  have hitems : (itemDrafts (xs.map s.toValue)).mapM (s.read (depth + 1)) = .ok xs := by
    rw [itemDrafts_eq, List.map_map]
    exact mapM_of_forall h
  change ((deeper depth).bind fun depth =>
    ((itemDrafts (xs.map s.toValue)).mapM (s.read depth)).bind .ok) = .ok xs
  rw [deeper_bind hdepth, hitems]
  rfl

/-- Read the key and the value of a member. -/
def Schema.readMember (depth : Nat) (s : Schema) (m : Quoted × Draft) :
    Except Fault (String × s.Denote) :=
  m.1.text.bind fun key => (s.read depth m.2).bind fun a => .ok (key, a)

theorem read_table {s : Schema} {ms : List (String × s.Denote)} (hdepth : depth + 1 < depthLimit)
    (horder : orderMembers ms = ms)
    (h : ∀ m ∈ ms, s.read (depth + 1) (s.toValue m.2).draft = .ok m.2) :
    (Schema.table s).read depth (Value.object (ms.map fun m => (m.1, s.toValue m.2))).draft =
      .ok ms := by
  have hmembers : (memberDrafts (ms.map fun m => (m.1, s.toValue m.2))).mapM
      (s.readMember (depth + 1)) = .ok ms := by
    rw [memberDrafts_eq, List.map_map]
    refine mapM_of_forall fun m hm => ?_
    simp only [Function.comp_apply, Schema.readMember, text_quoted, Except.bind, h m hm]
  change ((deeper depth).bind fun depth =>
    ((memberDrafts (ms.map fun m => (m.1, s.toValue m.2))).mapM (s.readMember depth)).bind
      fun ms => .ok (orderMembers ms)) = .ok ms
  rw [deeper_bind hdepth, hmembers]
  exact congrArg Except.ok horder

theorem read_choice {α : Type} {all : List α} {name : α → String} {a : α}
    (h : variantOf all name (name a) = .ok a) :
    (Schema.choice α all name).read depth (Value.text (name a)).draft = .ok a := by
  change (quoted (name a)).text.bind (variantOf all name) = .ok a
  rw [text_quoted]
  exact h

theorem read_parsed {α : Type} {expected : String} {parse : String → Except String α}
    {render : α → String} {a : α} (h : parse (render a) = .ok a) :
    (Schema.parsed α expected parse render).read depth (Value.text (render a)).draft = .ok a := by
  change (quoted (render a)).text.bind (parsedText parse) = .ok a
  rw [text_quoted]
  change parsedText parse (render a) = .ok a
  rw [parsedText, h]

theorem read_record {name : String} {fields : Fields} {r : fields.Denote}
    (hdepth : depth + 1 < depthLimit)
    (h : (memberDrafts (fields.toMembers r)).foldlM (fields.take (depth + 1)) fields.empty =
      .ok (fields.filled r)) :
    (Schema.record name fields).read depth (Value.object (fields.toMembers r)).draft = .ok r := by
  change ((deeper depth).bind fun depth =>
    ((memberDrafts (fields.toMembers r)).foldlM (fields.take depth) fields.empty).bind
      fields.close) = .ok r
  rw [deeper_bind hdepth, h]
  exact fields.close_filled r

section Fill

variable {name : String} {s : Schema} {rest : Fields} {r : rest.Denote}

/-- A slot is left alone by the members behind it. -/
theorem foldlM_take_rest (hname : name ∉ rest.names)
    (h : (memberDrafts (rest.toMembers r)).foldlM (rest.take depth) rest.empty =
      .ok (rest.filled r)) (slot : Option s.Denote) :
    (memberDrafts (rest.toMembers r)).foldlM ((Fields.required name s rest).take depth)
      (slot, rest.empty) = .ok (slot, rest.filled r) := by
  have hother : ∀ m ∈ rest.toMembers r, m.1 ≠ name :=
    fun m hm heq => hname (heq ▸ rest.mem_names r m hm)
  have hfold := foldlM_pair (f := rest.take depth)
    (g := (Fields.required name s rest).take depth)
    (fun m hm => take_of_ne (hother m hm) slot) rest.empty
  rw [h] at hfold
  exact hfold

/-- The first member fills the first slot. -/
theorem foldlM_take_first {a : s.Denote} (ha : s.read depth (s.toValue a).draft = .ok a)
    (hname : name ∉ rest.names)
    (h : (memberDrafts (rest.toMembers r)).foldlM (rest.take depth) rest.empty =
      .ok (rest.filled r)) :
    (memberDrafts ((name, s.toValue a) :: rest.toMembers r)).foldlM
      ((Fields.required name s rest).take depth) (none, rest.empty) =
        .ok (some a, rest.filled r) :=
  (foldlM_cons_ok (take_first ha rest.empty)).trans (foldlM_take_rest hname h (some a))

end Fill

mutual

/-- The draft of what is written is read as it was. -/
theorem Schema.read_draft (depth : Nat) : (s : Schema) → (a : s.Denote) → s.Fits depth a →
    s.read depth (s.toValue a).draft = .ok a
  | .text, a, _ => text_quoted a
  | .path, a, _ => text_quoted a
  | .flag, _, _ => rfl
  | .natural _ name, _, ⟨hbound, hn⟩ => read_natural name hbound hn
  | .integer, _, ⟨hlow, hhigh⟩ => read_integer hlow hhigh
  | .real, _, ⟨hfinite, hback⟩ => read_real hfinite hback
  | .any, _, ⟨_, hvalue⟩ => hvalue
  | .optional _, none, _ => rfl
  | .optional s, some a, h => by
    obtain ⟨hnull, hfits⟩ := h a rfl
    exact (read_optional hnull).trans (congrArg (Except.map some) (s.read_draft depth a hfits))
  | .list s, _, ⟨hdepth, hall⟩ =>
    read_list hdepth fun x hx => s.read_draft (depth + 1) x (hall x hx)
  | .table s, _, ⟨hdepth, horder, hall⟩ =>
    read_table hdepth horder fun m hm => s.read_draft (depth + 1) m.2 (hall m hm)
  | .choice _ _ _, _, h => read_choice h
  | .parsed _ _ _ _, _, h => read_parsed h
  | .record _ fields, r, ⟨hdepth, hnames, hfits⟩ =>
    read_record hdepth (fields.foldlM_take (depth + 1) r hnames hfits)

/-- The members of a record fill the slots of its fields. -/
theorem Fields.foldlM_take (depth : Nat) : (fs : Fields) → (r : fs.Denote) → fs.names.Nodup →
    fs.Fits depth r →
    (memberDrafts (fs.toMembers r)).foldlM (fs.take depth) fs.empty = .ok (fs.filled r)
  | .nil, _, _, _ => rfl
  | .required _ s rest, (a, r), hnames, ⟨ha, hr⟩ =>
    have ⟨hname, hrest⟩ := List.nodup_cons.1 hnames
    foldlM_take_first (s.read_draft depth a ha) hname (rest.foldlM_take depth r hrest hr)
  | .optional name s rest, (none, r), hnames, ⟨_, hr⟩ => by
    obtain ⟨hname, hrest⟩ := List.nodup_cons.1 hnames
    have hfold := foldlM_take_rest (s := s) hname (rest.foldlM_take depth r hrest hr) none
    rw [← take_optional] at hfold
    exact hfold
  | .optional name s rest, (some a, r), hnames, ⟨ha, hr⟩ => by
    obtain ⟨hname, hrest⟩ := List.nodup_cons.1 hnames
    have hfold := foldlM_take_first (s.read_draft depth a (ha a rfl)) hname
      (rest.foldlM_take depth r hrest hr)
    rw [← take_optional] at hfold
    exact hfold

end

theorem isFinite_ofInt (n : Int) : (Number.ofInt n).IsFinite := by
  unfold Number.ofInt
  split <;> trivial

mutual

/-- What is written for a document that fits has no number without a text. -/
theorem Schema.isFinite_toValue (depth : Nat) : (s : Schema) → (a : s.Denote) → s.Fits depth a →
    (s.toValue a).IsFinite
  | .text, a, _ => .text a
  | .path, a, _ => .text a
  | .flag, b, _ => .boolean b
  | .natural _ _, _, _ => .number trivial
  | .integer, n, _ => .number (isFinite_ofInt n)
  | .real, _, ⟨hfinite, _⟩ => toValue_real hfinite ▸ .number hfinite
  | .any, _, ⟨hfinite, _⟩ => hfinite
  | .optional _, none, _ => .null
  | .optional s, some a, h => s.isFinite_toValue depth a (h a rfl).2
  | .list s, _, ⟨_, hall⟩ =>
    .array (List.forall_mem_map.2 fun x hx => s.isFinite_toValue (depth + 1) x (hall x hx))
  | .table s, _, ⟨_, _, hall⟩ =>
    .object (List.forall_mem_map.2 fun m hm => s.isFinite_toValue (depth + 1) m.2 (hall m hm))
  | .choice _ _ name, a, _ => .text (name a)
  | .parsed _ _ _ render, a, _ => .text (render a)
  | .record _ fields, r, ⟨_, _, hfits⟩ => .object (fields.isFinite_toMembers (depth + 1) r hfits)

theorem Fields.isFinite_toMembers (depth : Nat) : (fs : Fields) → (r : fs.Denote) →
    fs.Fits depth r → ∀ m ∈ fs.toMembers r, m.2.IsFinite
  | .nil, _, _ => List.forall_mem_nil _
  | .required _ s rest, (a, r), ⟨ha, hr⟩ => List.forall_mem_cons.2
      ⟨s.isFinite_toValue depth a ha, rest.isFinite_toMembers depth r hr⟩
  | .optional _ _ rest, (none, r), ⟨_, hr⟩ => rest.isFinite_toMembers depth r hr
  | .optional _ s rest, (some a, r), ⟨ha, hr⟩ => List.forall_mem_cons.2
      ⟨s.isFinite_toValue depth a (ha a rfl), rest.isFinite_toMembers depth r hr⟩

end

/-- What is written for a document that fits is read back as it was. -/
theorem Schema.parse_pretty {s : Schema} {a : s.Denote} (h : s.Fits 0 a) :
    s.parse (pretty (s.toValue a)) = .ok a := by
  rw [Schema.parse, readWith_pretty _ (s.isFinite_toValue 0 a h)]
  exact s.read_draft 0 a h

end Read

end Json
end Walkthrough
