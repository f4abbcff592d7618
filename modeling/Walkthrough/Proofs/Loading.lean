import Walkthrough.Proofs.Actions
import Walkthrough.Proofs.Precedence
import Walkthrough.Scenario.Definition

/-!
# Walkthrough.Proofs.Loading

Which scenario files can be loaded, what they become, and which of their faults is told.

* `RawStep.build_eq_ok_iff`, `RawStep.build_eq_error_iff`: what a step becomes, and its first fault in
  the order of the checks.
* `RawStep.exists_becomes_iff`: the steps that are valid, each on its own.
* `buildSteps_append`: steps are built from the front, so that what follows a fault does not matter.
* `definition_of_build`: the same for files.
-/

namespace Walkthrough
namespace Scenario

open Config Json

/-! ## Addresses -/

namespace Surroundings

/-- The address that a value asks for, as it is written. -/
def wanted (s : Surroundings) (value : String) : String :=
  Text.trim (if Text.isBlankText value then s.url else value)

/-- What a value asks for is an address, or can be joined to the base address. -/
def HasAddress (s : Surroundings) (value : String) : Prop :=
  s.wanted value ≠ "" ∧ ((∃ u, Url.parse none (s.wanted value) = .ok u) ∨
    Text.trim s.baseUrl ≠ "" ∧ ∃ b, Url.parse none (Text.trim s.baseUrl) = .ok b ∧
      ∃ u, Url.join b (s.wanted value) = .ok u)

theorem exists_address_iff {s : Surroundings} {value : String} :
    (∃ u, s.address value = .ok u) ↔ s.HasAddress value := by
  have hwanted : Text.trim (if Text.isBlankText value then s.url else value) = s.wanted value := rfl
  simp only [address, hwanted, HasAddress]
  generalize s.wanted value = wanted
  generalize Text.trim s.baseUrl = base
  by_cases hwanted : wanted = ""
  · simp [hwanted]
  · rw [if_neg fun h => hwanted (String.isEmpty_iff.1 h), and_iff_right hwanted]
    cases Url.parse none wanted with
    | ok u => simp
    | error f =>
      by_cases hbase : base = ""
      · simp [hbase]
      · rw [if_neg fun h => hbase (String.isEmpty_iff.1 h)]
        cases Url.parse none base with
        | error f => simp
        | ok b => cases hjoin : Url.join b wanted <;> simp [hbase, hjoin]

end Surroundings

/-! ## One step -/

namespace RawStep

variable {s : Surroundings} {raw : RawStep}

/-- What a step says, as it is read: its kind, the text of its target, its value, its target. -/
structure Reads (s : Surroundings) (raw : RawStep) (kind : Action.Kind)
    (targetText value : String) (target : Target) : Prop where
  recognised : Action.Kind.parse? raw.action = some kind
  targetFilled : s.vars.resolve raw.target (fieldOf raw.id "target") = .ok targetText
  valueFilled : s.vars.resolve raw.template (fieldOf raw.id "value") = .ok value
  parsed : Target.parse targetText = .ok target

/-- Where a step navigates, if it does. -/
def Goes (s : Surroundings) (kind : Action.Kind) (value : String) (url : Option String) : Prop :=
  if kind = .navigate then ∃ u, s.address value = .ok u ∧ url = some u else url = none

/-- What a step becomes. -/
structure Becomes (s : Surroundings) (raw : RawStep) (step : Step) : Prop where
  reads : raw.Reads s step.action.kind step.target step.value step.action.target
  carries : ∃ url, Goes s step.action.kind step.value url ∧ step.action.Carries step.value url
  waitTime : Action.IsSpan raw.waitTime step.waitTime
  id : step.id = raw.id
  name : step.name = raw.name
  template : step.template = raw.template
  screenshot : step.screenshot = raw.screenshot

/-- A step is valid on its own. -/
def IsValid (s : Surroundings) (raw : RawStep) : Prop :=
  ∃ kind targetText value target, raw.Reads s kind targetText value target ∧ target.Suits kind ∧
    kind.Accepts value ∧ (kind = .navigate → s.HasAddress value) ∧
    ∃ d, Action.IsSpan raw.waitTime d

/-- The first fault of a step. Each check is made when all before it have passed. -/
inductive Fails (s : Surroundings) (raw : RawStep) : Failure → Prop where
  | kind : Action.Kind.parse? raw.action = none →
      Fails s raw (.config (.unsupportedAction raw.action))
  | targetText {kind : Action.Kind} {f : Failure} : Action.Kind.parse? raw.action = some kind →
      s.vars.resolve raw.target (fieldOf raw.id "target") = .error f → Fails s raw f
  | value {kind : Action.Kind} {targetText : String} {f : Failure} :
      Action.Kind.parse? raw.action = some kind →
      s.vars.resolve raw.target (fieldOf raw.id "target") = .ok targetText →
      s.vars.resolve raw.template (fieldOf raw.id "value") = .error f → Fails s raw f
  | target {kind : Action.Kind} {targetText value : String} {f : Failure} :
      Action.Kind.parse? raw.action = some kind →
      s.vars.resolve raw.target (fieldOf raw.id "target") = .ok targetText →
      s.vars.resolve raw.template (fieldOf raw.id "value") = .ok value →
      Target.parse targetText = .error f → Fails s raw f
  | address {targetText value : String} {target : Target} {f : Config.Fault} :
      raw.Reads s .navigate targetText value target → s.address value = .error f →
      Fails s raw (.config f)
  | action {kind : Action.Kind} {targetText value : String} {target : Target} {url : Option String}
      {f : Failure} : raw.Reads s kind targetText value target → Goes s kind value url →
      Action.build kind target targetText value url = .error f → Fails s raw f
  | waitTime {kind : Action.Kind} {targetText value : String} {target : Target}
      {url : Option String} {a : Action} {f : Config.Fault} :
      raw.Reads s kind targetText value target → Goes s kind value url →
      Action.build kind target targetText value url = .ok a →
      Action.spanOf (fieldOf raw.id "wait_time") raw.waitTime = .error f → Fails s raw (.config f)

/-- Where to navigate, as it is computed for a step. -/
def destination (s : Surroundings) (kind : Action.Kind) (value : String) :
    Except Failure (Option String) :=
  if kind = .navigate then (orConfig (s.address value)).map some else pure none

theorem orConfig_eq_ok_iff {α : Type} {x : Except Config.Fault α} {a : α} :
    orConfig x = .ok a ↔ x = .ok a := by
  cases x <;> simp [orConfig]

theorem orConfig_eq_error_iff {α : Type} {x : Except Config.Fault α} {f : Failure} :
    orConfig x = .error f ↔ ∃ g, x = .error g ∧ f = .config g := by
  cases x <;> simp [orConfig, eq_comm]

theorem destination_eq_ok_iff {kind : Action.Kind} {value : String} {url : Option String} :
    destination s kind value = .ok url ↔ Goes s kind value url := by
  rw [destination, Goes]
  split
  · rw [ok_map_iff]
    exact exists_congr fun u => and_congr orConfig_eq_ok_iff eq_comm
  · exact ⟨fun h => (Except.ok.inj h).symm, fun h => congrArg Except.ok h.symm⟩

theorem destination_eq_error_iff {kind : Action.Kind} {value : String} {f : Failure} :
    destination s kind value = .error f ↔
      kind = .navigate ∧ ∃ g, s.address value = .error g ∧ f = .config g := by
  rw [destination]
  split
  · next h => rw [error_map_iff, orConfig_eq_error_iff, and_iff_right h]
  · next h => exact iff_of_false nofun fun hboth => h hboth.1

/-- The step whose parts these are. -/
def withParts (raw : RawStep) (targetText value : String) (a : Action) (d : Duration) : Step :=
  { id := raw.id, name := raw.name, target := targetText, template := raw.template, value,
    action := a, waitTime := d, screenshot := raw.screenshot }

theorem build_eq (s : Surroundings) (raw : RawStep) : raw.build s =
    match Action.Kind.parse? raw.action with
    | none => .error (.config (.unsupportedAction raw.action))
    | some kind => s.vars.resolve raw.target (fieldOf raw.id "target") >>= fun targetText =>
      s.vars.resolve raw.template (fieldOf raw.id "value") >>= fun value =>
      Target.parse targetText >>= fun target =>
      destination s kind value >>= fun url =>
      Action.build kind target targetText value url >>= fun a =>
      (orConfig (Action.spanOf (fieldOf raw.id "wait_time") raw.waitTime)).map
        (raw.withParts targetText value a) := by
  simp only [RawStep.build, pure_bind]
  cases Action.Kind.parse? raw.action with
  | none => rfl
  | some kind =>
    refine bind_congr fun targetText => bind_congr fun value => bind_congr fun target => ?_
    rw [destination]
    by_cases hkind : kind = .navigate
    · rw [if_pos hkind, if_pos hkind]
      exact bind_congr fun url => bind_congr fun a => bind_pure_eq_map _ _
    · rw [if_neg hkind, if_neg hkind, pure_bind]
      exact bind_congr fun a => bind_pure_eq_map _ _

/-- A step that was built is what the raw step becomes, and nothing else can be built from it. -/
theorem build_eq_ok_iff {step : Step} : raw.build s = .ok step ↔ raw.Becomes s step := by
  rw [build_eq]
  cases hkind : Action.Kind.parse? raw.action with
  | none => exact iff_of_false nofun fun h => by cases hkind.symm.trans h.reads.recognised
  | some kind =>
    simp only [ok_bind_iff, ok_map_iff, destination_eq_ok_iff, orConfig_eq_ok_iff,
      Action.spanOf_eq_ok_iff, Action.build_eq_ok_iff]
    constructor
    · rintro ⟨targetText, htext, value, hvalue, target, htarget, url, hgoes, a,
        ⟨rfl, rfl, hcarries⟩, d, hd, rfl⟩
      exact ⟨⟨hkind, htext, hvalue, htarget⟩, ⟨url, hgoes, hcarries⟩, hd, rfl, rfl, rfl, rfl⟩
    · rintro ⟨hreads, ⟨url, hgoes, hcarries⟩, hd, hid, hname, htemplate, hscreenshot⟩
      obtain rfl : kind = step.action.kind := Option.some.inj (hkind.symm.trans hreads.recognised)
      refine ⟨_, hreads.targetFilled, _, hreads.valueFilled, _, hreads.parsed, url, hgoes, step.action,
        ⟨rfl, rfl, hcarries⟩, step.waitTime, hd, ?_⟩
      obtain ⟨id, name, target, template, value, action, waitTime, screenshot⟩ := step
      cases hid
      cases hname
      cases htemplate
      cases hscreenshot
      rfl

theorem build_eq_error_iff {f : Failure} : raw.build s = .error f ↔ raw.Fails s f := by
  rw [build_eq]
  cases hkind : Action.Kind.parse? raw.action with
  | none =>
    constructor
    · rintro ⟨⟩
      exact .kind hkind
    · intro h
      cases h with
      | kind => rfl
      | targetText hk | value hk | target hk => cases hkind.symm.trans hk
      | address hreads | action hreads | waitTime hreads => cases hkind.symm.trans hreads.recognised
  | some kind =>
    -- One alternative for each check, and in it the results of the checks before.
    simp only [error_bind_iff, error_map_iff, destination_eq_ok_iff, destination_eq_error_iff,
      orConfig_eq_error_iff]
    constructor
    · rintro (h | ⟨targetText, htext, h | ⟨value, hvalue, h | ⟨target, htarget, h⟩⟩⟩)
      · exact .targetText hkind h
      · exact .value hkind htext h
      · exact .target hkind htext hvalue h
      · have hreads : raw.Reads s kind targetText value target := ⟨hkind, htext, hvalue, htarget⟩
        rcases h with ⟨rfl, g, hg, rfl⟩ | ⟨url, hgoes, h | ⟨a, ha, g, hg, rfl⟩⟩
        · exact .address hreads hg
        · exact .action hreads hgoes h
        · exact .waitTime hreads hgoes ha hg
    · intro h
      have same {k : Action.Kind} (hk : Action.Kind.parse? raw.action = some k) : k = kind :=
        Option.some.inj (hk.symm.trans hkind)
      cases h with
      | kind hnone => cases hkind.symm.trans hnone
      | targetText hk h => exact .inl h
      | value hk htext h => exact .inr ⟨_, htext, .inl h⟩
      | target hk htext hvalue h => exact .inr ⟨_, htext, .inr ⟨_, hvalue, .inl h⟩⟩
      | address hreads h =>
        obtain rfl := same hreads.recognised
        exact .inr ⟨_, hreads.targetFilled, .inr ⟨_, hreads.valueFilled, .inr ⟨_, hreads.parsed,
          .inl ⟨rfl, _, h, rfl⟩⟩⟩⟩
      | action hreads hgoes h =>
        obtain rfl := same hreads.recognised
        exact .inr ⟨_, hreads.targetFilled, .inr ⟨_, hreads.valueFilled, .inr ⟨_, hreads.parsed,
          .inr ⟨_, hgoes, .inl h⟩⟩⟩⟩
      | waitTime hreads hgoes ha h =>
        obtain rfl := same hreads.recognised
        exact .inr ⟨_, hreads.targetFilled, .inr ⟨_, hreads.valueFilled, .inr ⟨_, hreads.parsed,
          .inr ⟨_, hgoes, .inr ⟨_, ha, _, h, rfl⟩⟩⟩⟩⟩

theorem exists_goes_iff {kind : Action.Kind} {value : String} :
    (∃ url, Goes s kind value url) ↔ (kind = .navigate → s.HasAddress value) := by
  rw [← Surroundings.exists_address_iff]
  by_cases hkind : kind = .navigate
  · simp only [Goes, if_pos hkind]
    constructor
    · rintro ⟨url, u, hu, rfl⟩ -
      exact ⟨u, hu⟩
    · intro h
      obtain ⟨u, hu⟩ := h hkind
      exact ⟨some u, u, hu, rfl⟩
  · simp only [Goes, if_neg hkind]
    exact iff_of_true ⟨none, rfl⟩ fun h => absurd h hkind

theorem exists_becomes_iff : (∃ step, raw.Becomes s step) ↔ raw.IsValid s := by
  constructor
  · rintro ⟨step, hreads, ⟨url, hgoes, hcarries⟩, hd, -⟩
    exact ⟨_, _, _, _, hreads, Action.suits_target _, Action.accepts_of_carries hcarries,
      exists_goes_iff.1 ⟨url, hgoes⟩, _, hd⟩
  · rintro ⟨kind, targetText, value, target, hreads, hsuits, haccepts, haddress, d, hd⟩
    obtain ⟨url, hgoes⟩ := exists_goes_iff.2 haddress
    obtain ⟨a, rfl, rfl, hcarries⟩ := Action.exists_carries url hsuits haccepts
    exact ⟨raw.withParts targetText value a d, hreads, ⟨url, hgoes, hcarries⟩, hd, rfl, rfl, rfl,
      rfl⟩

/-- A step is at fault after the one with the number `previous`: its own number is not above it, or
the step is no valid one. -/
def Offends (s : Surroundings) (previous : Option Nat) (raw : RawStep) (f : Failure) : Prop :=
  (∃ p ∈ previous, raw.id ≤ p ∧ f = .config (.stepOrder raw.id p)) ∨
    (∀ p ∈ previous, p < raw.id) ∧ raw.Fails s f

end RawStep

/-! ## All steps -/

section Steps

variable {s : Surroundings} {previous : Option Nat} {raw : RawStep} {raws rest : List RawStep}

theorem buildSteps_cons_of_le {p : Nat} (h : raw.id ≤ p) :
    buildSteps s (some p) (raw :: rest) = .error (.config (.stepOrder raw.id p)) := by
  simp only [buildSteps, if_pos h]
  rfl

theorem buildSteps_cons (h : ∀ p ∈ previous, p < raw.id) :
    buildSteps s previous (raw :: rest) =
      raw.build s >>= fun step => (buildSteps s (some raw.id) rest).map (step :: ·) := by
  cases previous with
  | none =>
    simp only [buildSteps]
    exact bind_congr fun step => bind_pure_eq_map _ _
  | some p =>
    have hlt : ¬raw.id ≤ p := Nat.not_le.2 (h p rfl)
    simp only [buildSteps, if_neg hlt]
    exact bind_congr fun step => bind_pure_eq_map _ _

/-- The number of the last of some steps. -/
def lastId (raws : List RawStep) : Option Nat := raws.getLast?.map RawStep.id

theorem lastId_cons_or : (lastId (raw :: rest)).or previous = (lastId rest).or (some raw.id) := by
  rw [lastId, lastId, List.getLast?_cons]
  cases rest.getLast? <;> rfl

theorem follows_or_not (previous : Option Nat) (raw : RawStep) :
    (∀ p ∈ previous, p < raw.id) ∨ ∃ p, previous = some p ∧ raw.id ≤ p := by
  cases previous with
  | none => exact .inl nofun
  | some p =>
    rcases Nat.lt_or_ge p raw.id with h | h
    · exact .inl fun q hq => Option.some.inj hq ▸ h
    · exact .inr ⟨p, rfl, h⟩

theorem buildSteps_append (raws rest : List RawStep) : buildSteps s previous (raws ++ rest) =
    buildSteps s previous raws >>= fun steps =>
      (buildSteps s ((lastId raws).or previous) rest).map (steps ++ ·) := by
  -- On the steps in front, for every number before them: each of them hands on its own.
  induction raws generalizing previous with
  | nil =>
    have hnil : buildSteps s previous [] = .ok [] := rfl
    rw [hnil]
    cases h : buildSteps s previous rest <;> simp [lastId, h, bind, Except.bind, Except.map]
  | cons raw raws ih =>
    rcases follows_or_not previous raw with h | ⟨p, rfl, h⟩
    · rw [List.cons_append, buildSteps_cons h, buildSteps_cons h, lastId_cons_or, ih, bind_assoc]
      refine bind_congr fun step => ?_
      cases buildSteps s (some raw.id) raws with
      | error f => rfl
      | ok steps =>
        cases hrest : buildSteps s ((lastId raws).or (some raw.id)) rest <;>
          simp [bind, Except.bind, Except.map]
    · rw [List.cons_append, buildSteps_cons_of_le h, buildSteps_cons_of_le h]
      rfl

/-- The numbers of steps rise from a number before them. -/
def IsRising (previous : Option Nat) (raws : List RawStep) : Prop :=
  (previous.toList ++ raws.map RawStep.id).Pairwise (· < ·)

theorem isRising_nil : IsRising previous [] := by
  cases previous <;> simp [IsRising]

theorem isRising_cons : IsRising previous (raw :: rest) ↔
    (∀ p ∈ previous, p < raw.id) ∧ IsRising (some raw.id) rest := by
  cases previous with
  | none => simp [IsRising]
  | some p =>
    simp only [IsRising, Option.toList_some, List.singleton_append, List.map_cons,
      List.pairwise_cons, List.forall_mem_cons, Option.mem_some_iff, forall_eq']
    constructor
    · rintro ⟨⟨hp, -⟩, hrest⟩
      exact ⟨hp, hrest⟩
    · rintro ⟨hp, hfirst, hrest⟩
      exact ⟨⟨hp, fun n hn => hp.trans (hfirst n hn)⟩, hfirst, hrest⟩

theorem buildSteps_eq_ok_iff {steps : List Step} : buildSteps s previous raws = .ok steps ↔
    IsRising previous raws ∧ List.Forall₂ (RawStep.Becomes s) raws steps := by
  induction raws generalizing previous steps with
  | nil =>
    rw [List.forall₂_nil_left_iff, and_iff_right isRising_nil]
    exact ⟨fun h => (Except.ok.inj h).symm, fun h => congrArg Except.ok h.symm⟩
  | cons raw rest ih =>
    rw [isRising_cons]
    rcases follows_or_not previous raw with h | ⟨p, rfl, h⟩
    · rw [buildSteps_cons h, and_iff_right h, List.forall₂_cons_left_iff]
      simp only [ok_bind_iff, ok_map_iff, RawStep.build_eq_ok_iff, ih]
      constructor
      · rintro ⟨step, hstep, steps, ⟨hrising, hrest⟩, rfl⟩
        exact ⟨hrising, step, steps, hstep, hrest, rfl⟩
      · rintro ⟨hrising, step, steps, hstep, hrest, rfl⟩
        exact ⟨step, hstep, steps, ⟨hrising, hrest⟩, rfl⟩
    · rw [buildSteps_cons_of_le h]
      refine iff_of_false nofun fun hall => ?_
      exact absurd (hall.1.1 p rfl) (Nat.not_lt.2 h)

/-- The steps can be built: their numbers rise, and each of them is valid. -/
structure AreSound (s : Surroundings) (raws : List RawStep) : Prop where
  rising : (raws.map RawStep.id).Pairwise (· < ·)
  valid : ∀ raw ∈ raws, raw.IsValid s

theorem exists_forall₂_becomes_iff :
    (∃ steps, List.Forall₂ (RawStep.Becomes s) raws steps) ↔ ∀ raw ∈ raws, raw.IsValid s := by
  induction raws with
  | nil => exact iff_of_true ⟨[], .nil⟩ (List.forall_mem_nil _)
  | cons raw rest ih =>
    rw [List.forall_mem_cons, ← ih, ← RawStep.exists_becomes_iff]
    constructor
    · rintro ⟨_, _ | ⟨hstep, hrest⟩⟩
      exact ⟨⟨_, hstep⟩, _, hrest⟩
    · rintro ⟨⟨step, hstep⟩, steps, hrest⟩
      exact ⟨step :: steps, .cons hstep hrest⟩

theorem exists_buildSteps_iff : (∃ steps, buildSteps s none raws = .ok steps) ↔ AreSound s raws := by
  simp only [buildSteps_eq_ok_iff, exists_and_left, exists_forall₂_becomes_iff]
  exact ⟨fun h => ⟨h.1, h.2⟩, fun h => ⟨h.rising, h.valid⟩⟩

theorem buildSteps_of_offends {f : Failure} (h : raw.Offends s previous f) :
    buildSteps s previous (raw :: rest) = .error f := by
  rcases h with ⟨p, rfl, hle, rfl⟩ | ⟨hfollows, hfails⟩
  · exact buildSteps_cons_of_le hle
  · rw [buildSteps_cons hfollows, RawStep.build_eq_error_iff.2 hfails]
    rfl

theorem exists_offends {f : Failure} (h : buildSteps s previous raws = .error f) :
    ∃ before raw after steps, raws = before ++ raw :: after ∧
      buildSteps s previous before = .ok steps ∧ raw.Offends s ((lastId before).or previous) f := by
  -- On the steps, whatever number comes before them: either the first one is at fault, or the fault
  -- of the others stands behind one step more.
  induction raws generalizing previous with
  | nil => cases h
  | cons raw rest ih =>
    rcases follows_or_not previous raw with hfollows | ⟨p, rfl, hle⟩
    · rw [buildSteps_cons hfollows] at h
      rcases error_bind_iff.1 h with hstep | ⟨step, hstep, hrest⟩
      · exact ⟨[], raw, rest, [], rfl, rfl, .inr ⟨hfollows, RawStep.build_eq_error_iff.1 hstep⟩⟩
      · obtain ⟨before, raw', after, steps, rfl, hbefore, hoffends⟩ := ih (error_map_iff.1 hrest)
        refine ⟨raw :: before, raw', after, step :: steps, rfl, ?_, ?_⟩
        · rw [buildSteps_cons hfollows, hstep, ok_bind_iff]
          exact ⟨step, rfl, ok_map_iff.2 ⟨steps, hbefore, rfl⟩⟩
        · rw [lastId_cons_or]
          exact hoffends
    · rw [buildSteps_cons_of_le hle] at h
      exact ⟨[], raw, rest, [], rfl, rfl, .inl ⟨p, rfl, hle, (Except.error.inj h).symm⟩⟩

/-- The first step that is at fault comes behind these sound ones. -/
structure IsFirstOffence (s : Surroundings) (before : List RawStep) (raw : RawStep) (f : Failure) :
    Prop where
  sound : AreSound s before
  offends : raw.Offends s (lastId before) f

theorem buildSteps_of_isFirstOffence {before : List RawStep} {f : Failure}
    (h : IsFirstOffence s before raw f) (after : List RawStep) :
    buildSteps s none (before ++ raw :: after) = .error f := by
  obtain ⟨steps, hsteps⟩ := exists_buildSteps_iff.2 h.sound
  rw [buildSteps_append, hsteps, error_bind_iff]
  refine .inr ⟨steps, rfl, error_map_iff.2 (buildSteps_of_offends ?_)⟩
  rw [Option.or_none]
  exact h.offends

theorem buildSteps_eq_error_iff {f : Failure} : buildSteps s none raws = .error f ↔
    ∃ before raw after, raws = before ++ raw :: after ∧ IsFirstOffence s before raw f := by
  constructor
  · intro h
    obtain ⟨before, raw, after, steps, rfl, hbefore, hoffends⟩ := exists_offends h
    rw [Option.or_none] at hoffends
    exact ⟨before, raw, after, rfl, exists_buildSteps_iff.1 ⟨steps, hbefore⟩, hoffends⟩
  · rintro ⟨before, raw, after, rfl, h⟩
    exact buildSteps_of_isFirstOffence h after

theorem buildSteps_take {steps : List Step} (h : buildSteps s none raws = .ok steps) (n : Nat) :
    buildSteps s none (raws.take n) = .ok (steps.take n) := by
  obtain ⟨hrising, hall⟩ := buildSteps_eq_ok_iff.1 h
  refine buildSteps_eq_ok_iff.2 ⟨?_, List.forall₂_take n hall⟩
  have hsublist : (raws.take n).map RawStep.id |>.Sublist (raws.map RawStep.id) :=
    (List.take_sublist n raws).map _
  exact hrising.sublist hsublist

end Steps

/-! ## Files -/

/-- What the steps of a scenario are built with, when its address is known. -/
def surroundings (env : Environment) (info : Info) (testData : Value) (url : String) :
    Surroundings where
  vars := addAll (sources env info testData url)
  url := url
  baseUrl := env.baseUrl

/-- The scenario with these steps. -/
def Info.definition (info : Info) (url : String) (steps : List Step) : Definition :=
  { name := info.name, description := info.description, url,
    expectedDuration := info.expectedDuration.map plainText, tags := distinct info.tags, steps }

namespace File

variable {env : Environment} {file : File} {testData : Value}

/-- The address of a scenario, as its file gives it, is resolved to this one. -/
def HasUrl (env : Environment) (file : File) (testData : Value) (url : String) : Prop :=
  (base env testData).resolve file.info.url "scenario_info.url" = .ok url

/-- The files that can be loaded. -/
def IsLoadable (env : Environment) (file : File) (testData : Value) : Prop :=
  file.steps ≠ [] ∧ ∃ url, file.HasUrl env testData url ∧
    AreSound (surroundings env file.info testData url) file.steps

/-- What a file becomes: one step for each raw step, in order. -/
structure Becomes (env : Environment) (file : File) (testData : Value) (d : Definition) : Prop where
  loadable : file.IsLoadable env testData
  url : file.HasUrl env testData d.url
  steps : List.Forall₂ (RawStep.Becomes (surroundings env file.info testData d.url)) file.steps d.steps
  rest : d = file.info.definition d.url d.steps

/-- Why a file cannot be loaded. What concerns the whole file comes before the steps, and of the
steps the first one that is at fault counts. -/
inductive Fails (env : Environment) (file : File) (testData : Value) : Failure → Prop where
  | noSteps : file.steps = [] → Fails env file testData (.config (.noSteps file.info.name))
  | url {f : Failure} : file.steps ≠ [] →
      (base env testData).resolve file.info.url "scenario_info.url" = .error f →
      Fails env file testData f
  | step {url : String} {before after : List RawStep} {raw : RawStep} {f : Failure} :
      file.HasUrl env testData url → file.steps = before ++ raw :: after →
      IsFirstOffence (surroundings env file.info testData url) before raw f →
      Fails env file testData f

theorem build_eq (env : Environment) (file : File) (testData : Value) :
    file.build env testData =
      if file.steps = [] then .error (.config (.noSteps file.info.name))
      else (base env testData).resolve file.info.url "scenario_info.url" >>= fun url =>
        (buildSteps (surroundings env file.info testData url) none file.steps).map
          (file.info.definition url) := by
  simp only [build, context_eq_map, List.isEmpty_iff]
  by_cases h : file.steps = []
  · rw [if_pos h, if_pos h]
    rfl
  · rw [if_neg h, if_neg h]
    cases (base env testData).resolve file.info.url "scenario_info.url" with
    | error f => rfl
    | ok url => exact bind_pure_eq_map _ _

theorem build_of_hasUrl {url : String} (hurl : file.HasUrl env testData url)
    (h : file.steps ≠ []) : file.build env testData =
      (buildSteps (surroundings env file.info testData url) none file.steps).map
        (file.info.definition url) := by
  rw [build_eq, if_neg h, hurl]
  rfl

theorem build_eq_ok_iff {d : Definition} :
    file.build env testData = .ok d ↔ file.Becomes env testData d := by
  constructor
  · intro h
    rw [build_eq] at h
    split at h
    · cases h
    · next hne =>
      obtain ⟨url, hurl, h⟩ := ok_bind_iff.1 h
      obtain ⟨steps, hsteps, rfl⟩ := ok_map_iff.1 h
      have hsound := exists_buildSteps_iff.1 ⟨steps, hsteps⟩
      exact ⟨⟨hne, url, hurl, hsound⟩, hurl, (buildSteps_eq_ok_iff.1 hsteps).2, rfl⟩
  · rintro ⟨⟨hne, url, hurl, hsound⟩, hurl', hsteps, hrest⟩
    obtain rfl : url = d.url := Except.ok.inj (hurl.symm.trans hurl')
    rw [build_of_hasUrl hurl hne, ok_map_iff]
    exact ⟨d.steps, buildSteps_eq_ok_iff.2 ⟨hsound.rising, hsteps⟩, hrest.symm⟩

theorem exists_build_iff : (∃ d, file.build env testData = .ok d) ↔ file.IsLoadable env testData := by
  constructor
  · rintro ⟨d, h⟩
    exact (build_eq_ok_iff.1 h).loadable
  · rintro ⟨hne, url, hurl, hsound⟩
    obtain ⟨steps, hsteps⟩ := exists_buildSteps_iff.2 hsound
    exact ⟨_, by rw [build_of_hasUrl hurl hne, hsteps]; rfl⟩

theorem build_eq_error_iff {f : Failure} :
    file.build env testData = .error f ↔ file.Fails env testData f := by
  constructor
  · intro h
    rw [build_eq] at h
    split at h
    · next hempty =>
      cases h
      exact .noSteps hempty
    · next hne =>
      rcases error_bind_iff.1 h with h | ⟨url, hurl, h⟩
      · exact .url hne h
      · obtain ⟨before, raw, after, hsplit, hfirst⟩ := buildSteps_eq_error_iff.1 (error_map_iff.1 h)
        exact .step hurl hsplit hfirst
  · intro h
    cases h with
    | noSteps hempty => rw [build_eq, if_pos hempty]
    | url hne h =>
      rw [build_eq, if_neg hne, h]
      rfl
    | step hurl hsplit hfirst =>
      have hne : file.steps ≠ [] := by
        rw [hsplit]
        simp
      rw [build_of_hasUrl hurl hne, error_map_iff]
      exact buildSteps_eq_error_iff.2 ⟨_, _, _, hsplit, hfirst⟩

/-- A file can be loaded exactly if it has steps, its address is resolved, the numbers of its steps
rise and each step is valid on its own. It becomes the scenario whose steps its raw steps become, in
order and one by one. Otherwise it has the fault of the whole file, or that of the first step that
is at fault, whatever follows this step. The first steps of a file that can be loaded are loaded as
they are among all. -/
theorem definition_of_build (env : Environment) (file : File) (testData : Value) :
    ((∃ d, file.build env testData = .ok d) ↔ file.IsLoadable env testData) ∧
      (∀ d, file.build env testData = .ok d ↔ file.Becomes env testData d) ∧
      (∀ f, file.build env testData = .error f ↔ file.Fails env testData f) ∧
      (∀ url before raw f, file.HasUrl env testData url →
        IsFirstOffence (surroundings env file.info testData url) before raw f → ∀ after,
          ({ file with steps := before ++ raw :: after } : File).build env testData = .error f) ∧
      ∀ d n, 0 < n → file.build env testData = .ok d →
        ({ file with steps := file.steps.take n } : File).build env testData =
          .ok { d with steps := d.steps.take n } := by
  refine ⟨exists_build_iff, fun d => build_eq_ok_iff, fun f => build_eq_error_iff, ?more, ?fewer⟩
  case more =>
    intro url before raw f hurl hfirst after
    exact build_eq_error_iff.2 (.step hurl rfl hfirst)
  case fewer =>
    intro d n hn h
    obtain ⟨hne, url, hurl, -⟩ := exists_build_iff.1 ⟨d, h⟩
    have hne' : file.steps.take n ≠ [] := by
      rw [ne_eq, List.take_eq_nil_iff, not_or]
      exact ⟨Nat.pos_iff_ne_zero.1 hn, hne⟩
    rw [build_of_hasUrl hurl hne, ok_map_iff] at h
    obtain ⟨steps, hsteps, rfl⟩ := h
    have hcut : ({ file with steps := file.steps.take n } : File).HasUrl env testData url := hurl
    rw [build_of_hasUrl hcut hne', ok_map_iff]
    exact ⟨steps.take n, buildSteps_take hsteps n, rfl⟩

end File
end Scenario
end Walkthrough
