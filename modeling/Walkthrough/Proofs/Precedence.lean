import Walkthrough.Proofs.Basic
import Walkthrough.Proofs.Flattening
import Walkthrough.Scenario.Context

/-!
# Walkthrough.Proofs.Precedence

Which of its sources gives a variable of a scenario its value.

* `Source`: where variables come from, and what a source tells of a name.
* `get?_addAll_iff`: variables that were gathered from sources have what the first source tells, if
  the sources are listed from the one that was added last.
* `base_eq`, `context_eq_map`: the variables of a scenario as such a gathering.
* `precedence_of_context`: the order of the sources, and the variables that the address may use.
-/

namespace Walkthrough
namespace Scenario

open Config Json

/-! ## Sources -/

/-- Where variables come from. -/
inductive Source where
  /-- Names with their values, in order. -/
  | entries (es : List (String × String))
  /-- The scalars of a value, all names behind `front`. -/
  | document (front : String) (v : Value)

namespace Source

/-- What a source tells of a name. Of equal names the last one counts. -/
def Tells : Source → String → String → Prop
  | .entries es, name, text =>
    ∃ before after, es = before ++ (name, text) :: after ∧ ∀ e ∈ after, e.1 ≠ name
  | .document front v, name, text => Variables.Tells front v name text

/-- Put all that a source tells over what is there. -/
def add (s : Source) (vars : Variables) : Variables :=
  match s with
  | .entries es => es.foldl (fun vars e => vars.insert e.1 e.2) vars
  | .document front v => vars.merge front v

theorem get?_entries (es : List (String × String)) (vars : Variables) (name : String) :
    (es.foldl (fun vars e => vars.insert e.1 e.2) vars).get? name =
      (Variables.told? name es).or (vars.get? name) := by
  induction es generalizing vars with
  | nil => rfl
  | cons e es ih =>
    rw [List.foldl_cons, ih, Variables.get?_insert]
    by_cases h : name = e.1
    · subst h
      simp [Variables.told?]
    · simp [Variables.told?, h, Ne.symm h]

/-- A source overrides what it tells of, and nothing else. -/
theorem get?_add_iff {s : Source} {vars : Variables} {name text : String} :
    (s.add vars).get? name = some text ↔
      s.Tells name text ∨ (∀ t, ¬s.Tells name t) ∧ vars.get? name = some text := by
  cases s with
  | entries es =>
    have hnone : (∀ t, ¬(Source.entries es).Tells name t) ↔ Variables.told? name es = none := by
      rw [Option.eq_none_iff_forall_ne_some]
      exact forall_congr' fun t => not_congr Variables.told?_eq_some_iff.symm
    rw [hnone, add, get?_entries, Option.or_eq_some_iff, Variables.told?_eq_some_iff]
    rfl
  | document front v => exact Variables.get?_merge_iff

end Source

/-- Gather variables from sources, the last one first. -/
def addAll (ss : List Source) : Variables := ss.foldr Source.add Variables.empty

/-- The first of the sources that tells anything of a name tells this. -/
def FirstTells (ss : List Source) (name text : String) : Prop :=
  ∃ before s after, ss = before ++ s :: after ∧ s.Tells name text ∧
    ∀ s' ∈ before, ∀ t, ¬s'.Tells name t

theorem firstTells_cons {s : Source} {ss : List Source} {name text : String} :
    FirstTells (s :: ss) name text ↔
      s.Tells name text ∨ (∀ t, ¬s.Tells name t) ∧ FirstTells ss name text := by
  constructor
  · rintro ⟨before, s', after, heq, htells, hbefore⟩
    cases before with
    | nil =>
      obtain ⟨rfl, rfl⟩ := List.cons.inj heq
      exact .inl htells
    | cons b before =>
      obtain ⟨rfl, rfl⟩ := List.cons.inj heq
      obtain ⟨hfirst, hrest⟩ := List.forall_mem_cons.1 hbefore
      exact .inr ⟨hfirst, before, s', after, rfl, htells, hrest⟩
  · rintro (htells | ⟨hfirst, before, s', after, rfl, htells, hrest⟩)
    · exact ⟨[], s, ss, rfl, htells, List.forall_mem_nil _⟩
    · exact ⟨s :: before, s', after, rfl, htells, List.forall_mem_cons.2 ⟨hfirst, hrest⟩⟩

theorem get?_addAll_iff {ss : List Source} {name text : String} :
    (addAll ss).get? name = some text ↔ FirstTells ss name text := by
  induction ss with
  | nil =>
    refine iff_of_false (fun h => by cases h) ?_
    rintro ⟨before, s, after, heq, -⟩
    cases before <;> cases heq
  | cons s ss ih =>
    -- The first source is added last, over all that the others have told.
    rw [firstTells_cons, ← ih, ← Source.get?_add_iff]
    rfl

theorem get?_addAll_eq_none {ss : List Source} {name : String}
    (h : ∀ s ∈ ss, ∀ t, ¬s.Tells name t) : (addAll ss).get? name = none := by
  rw [Option.eq_none_iff_forall_ne_some]
  intro text hsome
  obtain ⟨before, s, after, rfl, htells, -⟩ := get?_addAll_iff.1 hsome
  exact h s (List.mem_append_right _ List.mem_cons_self) text htells

/-! ## The sources of a scenario -/

/-- The sources of the variables that an address may use. -/
def baseSources (env : Environment) (testData : Value) : List Source :=
  [.document "" testData,
    .entries (env.featureFlags.map fun f => ("feature_flags." ++ f.1, flagText f.2)),
    .document "api_endpoints" (.object env.apiEndpoints),
    .document "test_data" (.object env.testData),
    .document "" (.object env.testData),
    .document "credentials" (.object env.credentials),
    .document "" (.object env.credentials),
    .entries [("base_url", env.baseUrl)]]

/-- What a scenario says of itself. -/
def ownSource (info : Info) (url : String) : Source :=
  .entries [("name", info.name), ("scenario_info.name", info.name),
    ("description", info.description), ("scenario_info.description", info.description),
    ("url", url), ("scenario_info.url", url)]

/-- All sources of a scenario, the one that overrides all others first. -/
def sources (env : Environment) (info : Info) (testData : Value) (url : String) : List Source :=
  ownSource info url :: baseSources env testData

theorem base_eq (env : Environment) (testData : Value) :
    base env testData = addAll (baseSources env testData) := by
  simp only [base, environmentVariables, addAll, baseSources, List.foldr_cons, List.foldr_nil,
    Source.add, List.foldl_map, List.foldl_cons, List.foldl_nil]

/-- The variables of a scenario, once its address is known. -/
theorem context_eq_map (env : Environment) (info : Info) (testData : Value) :
    context env info testData = ((base env testData).resolve info.url "scenario_info.url").map
      fun url => (addAll (sources env info testData url), url) := by
  have hown : ∀ url, insertOwn (insertOwn (insertOwn (base env testData) "name" info.name)
      "description" info.description) "url" url = addAll (sources env info testData url) := by
    intro url
    rw [base_eq]
    rfl
  rw [context]
  cases (base env testData).resolve info.url "scenario_info.url" with
  | error f => rfl
  | ok url => exact congrArg (fun vars => Except.ok (vars, url)) (hown url)

theorem not_tells_empty {env : Environment} {info : Info} {testData : Value} {url : String}
    {s : Source} (hs : s ∈ sources env info testData url) (text : String) : ¬s.Tells "" text := by
  have hentries : ∀ es : List (String × String), (∀ e ∈ es, e.1 ≠ "") →
      ¬(Source.entries es).Tells "" text := by
    rintro es hne ⟨before, after, rfl, -⟩
    exact hne _ (List.mem_append_right _ List.mem_cons_self) rfl
  have hdocument : ∀ front v, ¬(Source.document front v).Tells "" text := fun _ _ h => h.1 rfl
  simp only [sources, baseSources, List.mem_cons, List.not_mem_nil, or_false] at hs
  rcases hs with rfl | rfl | rfl | rfl | rfl | rfl | rfl | rfl | rfl
  · refine hentries _ ?_
    simp
  · exact hdocument _ _
  · refine hentries _ (List.forall_mem_map.2 fun f _ => ?_)
    simp
  · exact hdocument _ _
  · exact hdocument _ _
  · exact hdocument _ _
  · exact hdocument _ _
  · exact hdocument _ _
  · refine hentries _ ?_
    simp

/-- A variable of a scenario has the value that the first of its sources tells: the scenario itself,
its test data, the flags, the endpoints and the test data of the environment, its credentials, its
base address. The empty name is never defined. The address of the scenario is resolved against the
same sources without the scenario itself. -/
theorem precedence_of_context {env : Environment} {info : Info} {testData : Value}
    {vars : Variables} {url : String} (h : context env info testData = .ok (vars, url)) :
    (∀ name text, vars.get? name = some text ↔
        FirstTells (sources env info testData url) name text) ∧
      vars.get? "" = none ∧
      ∃ before : Variables,
        (∀ name text, before.get? name = some text ↔
          FirstTells (baseSources env testData) name text) ∧
        before.resolve info.url "scenario_info.url" = .ok url := by
  rw [context_eq_map] at h
  obtain ⟨u, hurl, heq⟩ := ok_map_iff.1 h
  obtain ⟨rfl, rfl⟩ := Prod.mk.inj heq
  refine ⟨fun name text => get?_addAll_iff, ?_, base env testData, fun name text => ?_, hurl⟩
  · exact get?_addAll_eq_none fun s hs => not_tells_empty hs
  · rw [base_eq]
    exact get?_addAll_iff

/-! A shop whose sources have names in common: the user of the credentials and of the test data, a
flag, and an address among the credentials. -/

namespace Shop

def environment : Environment :=
  { Environment.default with
    baseUrl := "https://shop.example"
    credentials := [("url", .text "unused"), ("user", .text "standard")]
    testData := [("user", .text "tester")]
    featureFlags := [("beta", true)] }

def info : Info := ⟨"Shop", "", "$\x7bbase_url\x7d/$\x7b user \x7d", none, []⟩

/-- The key of the flag is one key here, with a dot in it. -/
def testData : Value := .object [("feature_flags.beta", .text "off")]

def url : String := "https://shop.example/tester"

def gathered : Variables :=
  ⟨[("base_url", "https://shop.example"), ("url", url), ("user", "tester"),
    ("credentials.url", "unused"), ("credentials.user", "standard"),
    ("test_data.user", "tester"), ("feature_flags.beta", "off"), ("name", "Shop"),
    ("scenario_info.name", "Shop"), ("description", ""), ("scenario_info.description", ""),
    ("scenario_info.url", url)]⟩

theorem context_eq : context environment info testData = .ok (gathered, url) := by
  decide +kernel

theorem precedence_of_shop :
    context environment info testData = .ok (gathered, url) ∧
      FirstTells (sources environment info testData url) "user" "tester" ∧
      FirstTells (sources environment info testData url) "feature_flags.beta" "off" ∧
      FirstTells (sources environment info testData url) "url" url ∧
      gathered.get? "" = none ∧
      ∃ before : Variables, before.get? "url" = some "unused" ∧
        before.resolve info.url "scenario_info.url" = .ok url := by
  obtain ⟨hfirst, hempty, before, hbefore, hresolve⟩ := precedence_of_context context_eq
  refine ⟨context_eq, (hfirst _ _).1 ?_, (hfirst _ _).1 ?_, (hfirst _ _).1 ?_, hempty, before, ?_,
    hresolve⟩
  · decide
  · decide
  · decide
  · rw [hbefore, ← get?_addAll_iff]
    decide +kernel

end Shop

end Scenario
end Walkthrough
