import Walkthrough.Config.Plan
import Walkthrough.Text.Lowercase

/-!
# Walkthrough.Config.Overrides

Settings that are given for a single run, over those of a loaded plan.

* `Plan.override` leaves out the entries whose name does not hold the filter; an entry that was not
  marked stays so (`isSelected_restrict`).
* `Plan.isOverridden_override` says what becomes of every setting, and that the rest of a plan stays
  as it is; without overrides all of it does (`Plan.override_none`).
-/

namespace Walkthrough
namespace Config

/-- What takes the place of settings. -/
structure Overrides where
  webdriverUrl : Option String
  /-- Scenarios run side by side. -/
  parallel : Bool
  /-- A text that the name of a scenario has to hold, in whatever case. -/
  filter : Option String
deriving DecidableEq, Repr

/-- Does the name of an entry hold a text, in whatever case? -/
def Entry.nameHolds (text : String) (e : Entry) : Bool :=
  Text.contains (Text.lower text) (Text.lower e.name)

/-- Take the mark off an entry whose name does not hold the filter. -/
def Entry.restrict (filter : Option String) (e : Entry) : Entry :=
  match filter with
  | none => e
  | some text => if e.nameHolds text then e else { e with execute := "n" }

theorem Entry.isSelected_restrict (filter : Option String) (e : Entry) :
    (e.restrict filter).isSelected = (e.isSelected && filter.all fun text => e.nameHolds text) := by
  cases filter with
  | none => simp [restrict]
  | some text =>
    by_cases h : e.nameHolds text
    · simp [restrict, h]
    · have hn : Text.lowerAscii (Text.trim "n") ≠ "y" := by decide +kernel
      simp [restrict, h, isSelected, hn]

/-- The plan with overrides in place of its settings. -/
def Plan.override (o : Overrides) (plan : Plan) : Plan :=
  let framework := plan.master.framework
  { plan with
    master :=
      { plan.master with
        framework :=
          { framework with
            webdriverUrl := o.webdriverUrl.getD framework.webdriverUrl
            parallelExecution := framework.parallelExecution || o.parallel }
        scenarios := plan.master.scenarios.map (Entry.restrict o.filter) } }

/-- What overrides make of a plan. -/
structure Plan.IsOverridden (o : Overrides) (plan plan' : Plan) : Prop where
  /-- An address that is given takes the place of the one in the configuration. -/
  webdriverUrl : plan'.master.framework.webdriverUrl =
    o.webdriverUrl.getD plan.master.framework.webdriverUrl
  /-- Scenarios can be put side by side, and not back in a line. -/
  parallelExecution : plan'.master.framework.parallelExecution = true ↔
    plan.master.framework.parallelExecution = true ∨ o.parallel = true
  scenarios : plan'.master.scenarios = plan.master.scenarios.map (Entry.restrict o.filter)
  /-- With these three put back, the plan is the one that was overridden. -/
  rest :
    { plan' with
      master :=
        { plan'.master with
          framework :=
            { plan'.master.framework with
              webdriverUrl := plan.master.framework.webdriverUrl
              parallelExecution := plan.master.framework.parallelExecution }
          scenarios := plan.master.scenarios } } = plan

theorem Plan.isOverridden_override (o : Overrides) (plan : Plan) :
    IsOverridden o plan (plan.override o) where
  webdriverUrl := rfl
  parallelExecution := Bool.or_eq_true_iff
  scenarios := rfl
  rest := rfl

theorem Entry.restrict_none : restrict none = id := rfl

theorem Plan.override_none (plan : Plan) : plan.override ⟨none, false, none⟩ = plan := by
  simp [override, Entry.restrict_none]

end Config
end Walkthrough
