import Walkthrough.Proofs.Rereading
import Walkthrough.Scenario.Definition

/-!
# Walkthrough.Proofs.ScenarioFiles

A scenario file that was accepted is not changed by being written anew.

A field that is left out is written with its default, so what is written is not what was read, field
by field: each record is shown to fit once its defaults are filled in.

* `File.reals` are the floating point numbers of a file; they alone may be read differently from
  what is written.
* `Info.fits_fields`, `RawStep.fits_fields`: what was read of a record fits with its defaults.
* `File.parse_render_of_parse`: the file is read back as it was, and builds the same scenario.
-/

namespace Walkthrough
namespace Scenario

open Json

variable {P : Binary64 → Prop}

theorem forall_of_getD {α : Type} {P : α → Prop} {a? : Option α} {default : α}
    (h : P (a?.getD default)) : ∀ a, a? = some a → P a := by
  rintro a rfl
  exact h

theorem forall_getD {α : Type} {P : α → Prop} {a? : Option α} {default : α}
    (h : ∀ a, a? = some a → P a) (hdefault : P default) :
    ∀ a, some (a?.getD default) = some a → P a := by
  rintro _ ⟨⟩
  cases a? with
  | none => exact hdefault
  | some a => exact h a rfl

/-! ## The scenario -/

namespace Info

/-- The floating point numbers of what a file says about itself. -/
def reals (i : Info) : List Binary64 := (i.expectedDuration.map Value.reals).getD []

theorem isFaithful_schema : schema.IsFaithful :=
  ⟨by decide, trivial, trivial, trivial, trivial, trivial, trivial⟩

theorem allReals_of_ofFields {r : schema.Denote} (h : ∀ x ∈ (ofFields r).reals, P x) :
    schema.AllReals P r := by
  obtain ⟨name, description, url, expectedDuration, tags, u⟩ := r
  refine ⟨trivial, fun _ _ => trivial, fun _ _ => trivial, ?expectedDuration,
    fun _ _ _ _ => trivial, trivial⟩
  case expectedDuration =>
    rintro _ rfl v rfl
    exact h

theorem fits_fields {depth : Nat} (hdepth : depth + 2 < depthLimit) {r : schema.Denote}
    (h : schema.Fits depth r) : schema.Fits depth (ofFields r).fields := by
  obtain ⟨name, description, url, expectedDuration, tags, u⟩ := r
  obtain ⟨hrecord, hnames, -, -, -, hduration, htags, -⟩ := h
  refine ⟨hrecord, hnames, trivial, fun _ _ => trivial, fun _ _ => trivial, ?expectedDuration,
    ?tags, trivial⟩
  case expectedDuration => exact forall_getD hduration nofun
  case tags => exact forall_getD htags ⟨hdepth, List.forall_mem_nil _⟩

end Info

/-! ## The steps -/

namespace RawStep

/-- The floating point numbers of a step. -/
def reals (s : RawStep) : List Binary64 := s.value.reals ++ [s.waitTime]

theorem isFaithful_schema : schema.IsFaithful :=
  ⟨by decide, trivial, trivial, trivial, trivial, trivial, trivial, trivial, trivial⟩

theorem allReals_of_ofFields {r : schema.Denote} (h : ∀ x ∈ (ofFields r).reals, P x) :
    schema.AllReals P r := by
  obtain ⟨id, name, action, target, value, waitTime, screenshot, u⟩ := r
  obtain ⟨hvalue, hwait⟩ := List.forall_mem_append.1 h
  refine ⟨trivial, trivial, trivial, fun _ _ => trivial, ?value, ?waitTime, fun _ _ => trivial,
    trivial⟩
  case value => exact forall_of_getD (P := fun v : Value => ∀ x ∈ v.reals, P x) hvalue
  case waitTime => exact forall_of_getD (List.forall_mem_singleton.1 hwait)

theorem isReadBack_zero : IsReadBack (Binary64.ofNat 0) :=
  (isReadBack_iff (by decide +kernel)).2 (by decide +kernel)

theorem fits_fields {depth : Nat} {r : schema.Denote} (h : schema.Fits depth r) :
    schema.Fits depth (ofFields r).fields := by
  obtain ⟨id, name, action, target, value, waitTime, screenshot, u⟩ := r
  obtain ⟨hrecord, hnames, hid, -, -, -, hvalue, hwait, -⟩ := h
  refine ⟨hrecord, hnames, hid, trivial, trivial, fun _ _ => trivial, ?value, ?waitTime,
    fun _ _ => trivial, trivial⟩
  case value => exact forall_getD hvalue ⟨.null, rfl⟩
  case waitTime => exact forall_getD hwait ⟨by decide +kernel, isReadBack_zero⟩

end RawStep

/-! ## Files -/

namespace File

/-- The floating point numbers of a file. -/
def reals (f : File) : List Binary64 := f.info.reals ++ f.steps.flatMap RawStep.reals

theorem isFaithful_schema : schema.IsFaithful :=
  ⟨by decide, Info.isFaithful_schema, RawStep.isFaithful_schema, trivial⟩

theorem allReals_of_ofFields {r : schema.Denote} (h : ∀ x ∈ (ofFields r).reals, P x) :
    schema.AllReals P r := by
  obtain ⟨info, steps, u⟩ := r
  obtain ⟨hinfo, hsteps⟩ := List.forall_mem_append.1 h
  refine ⟨Info.allReals_of_ofFields hinfo, fun s hs => ?_, trivial⟩
  have hstep := List.forall_mem_flatMap.1 hsteps _ (List.mem_map_of_mem hs)
  exact RawStep.allReals_of_ofFields hstep

theorem fits_fields {r : schema.Denote} (h : schema.Fits 0 r) :
    schema.Fits 0 (ofFields r).fields := by
  obtain ⟨info, steps, u⟩ := r
  obtain ⟨hrecord, hnames, hinfo, ⟨hdepth, hsteps⟩, -⟩ := h
  refine ⟨hrecord, hnames, Info.fits_fields (by decide) hinfo, ⟨hdepth, ?_⟩, trivial⟩
  exact List.forall_mem_map.2 (List.forall_mem_map.2 fun s hs => RawStep.fits_fields (hsteps s hs))

/-- A file that was accepted fits with all its defaults. -/
theorem fits_of_parse {text : String} {file : File} (h : parse text = .ok file)
    (hreals : ∀ x ∈ file.reals, ReadsBack x) : schema.Fits 0 file.fields := by
  obtain ⟨r, hr, rfl⟩ := ok_map_iff.1 h
  exact fits_fields (Schema.fits_of_parse isFaithful_schema hr (allReals_of_ofFields hreals))

/-- A file that was accepted has a text without a number left out, is read back from it as it was,
and its text builds the scenario that the first one builds, if its floating point numbers are read
back. -/
theorem parse_render_of_parse {text : String} {file : File} (h : parse text = .ok file)
    (hreals : ∀ x ∈ file.reals, ReadsBack x) :
    file.toValue.IsFinite ∧ parse file.render = .ok file ∧
      (parse file.render).map (fun f => f.steps.map RawStep.template) =
        (parse text).map (fun f => f.steps.map RawStep.template) ∧
      ∀ env testData, (parse file.render).map (fun f => f.build env testData) =
        (parse text).map (fun f => f.build env testData) := by
  have hfits := fits_of_parse h hreals
  have hagain : parse file.render = .ok file := by
    rw [parse, render, toValue, Schema.parse_pretty hfits]
    exact congrArg Except.ok (ofFields_fields file)
  refine ⟨schema.isFinite_toValue 0 file.fields hfits, hagain, ?_, fun env testData => ?_⟩
  · rw [hagain, h]
  · rw [hagain, h]

namespace Sample

/-- A scenario as a list, a step as a list that ends early, a step with its fields in another order,
and a key that stands twice. -/
def text : String :=
  "\x7b\"scenario_info\": [\"Shop\", \"\", \"\", \x7b\"b\": 2.5, \"a\": 1, \"a\": null\x7d], " ++
  "\"test_steps\": [[1, \"open\", \"navigate\", \"\", \"https://shop.example/\"], " ++
  "\x7b\"wait_time\": 0.5, \"step_id\": 2, \"action\": \"wait\", \"step_name\": \"settle\", " ++
  "\"value\": 3.0\x7d]\x7d"

/-- What is written for it. -/
def reals : List Binary64 :=
  [.ofRatio false 5 2, .ofRatio false 0 1, .ofRatio false 3 1, .ofRatio false 1 2]

theorem reals_parse : (parse text).map File.reals = .ok reals := by decide +kernel

theorem readsBack_reals : ∀ x ∈ reals, ReadsBack x := by
  have hnumbers : ∀ x ∈ reals, (Number.real x).numeral.number = .ok (.real x) := by decide +kernel
  exact fun x hx hfinite => (isReadBack_iff hfinite).2 (hnumbers x hx)

theorem parse_render_of_parse_text : ∃ file, parse text = .ok file ∧ file.reals = reals ∧
    (∀ x ∈ file.reals, ReadsBack x) ∧ file.toValue.IsFinite ∧ parse file.render = .ok file := by
  obtain ⟨file, hparse, hreals⟩ := ok_map_iff.1 reals_parse
  have hback : ∀ x ∈ file.reals, ReadsBack x := hreals ▸ readsBack_reals
  obtain ⟨hfinite, hagain, -⟩ := parse_render_of_parse hparse hback
  exact ⟨file, hparse, hreals, hback, hfinite, hagain⟩

end Sample

end File

end Scenario
end Walkthrough
