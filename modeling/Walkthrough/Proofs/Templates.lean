import Walkthrough.Config.Environment
import Walkthrough.Proofs.Basic
import Walkthrough.Proofs.Trimming
import Walkthrough.Variables

/-!
# Walkthrough.Proofs.Templates

How templates are cut and filled in.

* `Cuts`: the cuts of a text into literals and places, as a relation that reads from left to right
  and knows nothing of how a cut is found.
* `nameOf_eq_iff`: the name in a place is what stands there between blanks.
* `cuts_iff`: every text has exactly one cut, the one that `spans` finds.
* `fill_eq_ok_iff`, `fill_eq_error_iff`: a cut is filled in if every name has a value; otherwise the
  first name without one is told.
* `resolved_of_cut`: both together, for templates resolved against a context and for the strings of
  an environment.
-/

namespace Walkthrough
namespace Template

/-! ## Places -/

/-- A place starts here: `${`, at least one character other than a closing brace, and that brace. -/
def StartsPlace (cs : List Char) : Prop :=
  ∃ body after, cs = '$' :: '{' :: (body ++ '}' :: after) ∧ body ≠ [] ∧ '}' ∉ body

theorem token?_eq_some_iff {cs body after : List Char} :
    token? cs = some (body, after) ↔
      cs = '$' :: '{' :: (body ++ '}' :: after) ∧ body ≠ [] ∧ '}' ∉ body := by
  constructor
  · exact token?_eq_some
  · rintro ⟨rfl, hne, hbody⟩
    obtain ⟨c, body, rfl⟩ := List.exists_cons_of_ne_nil hne
    have hsplit : Text.splitFirst '}' (c :: body ++ '}' :: after) = some (c :: body, after) :=
      Text.splitFirst_eq_some_iff.2 ⟨rfl, hbody⟩
    simp only [token?, hsplit]

theorem token?_eq_none_iff {cs : List Char} : token? cs = none ↔ ¬StartsPlace cs := by
  constructor
  · rintro hnone ⟨body, after, hplace⟩
    rw [token?_eq_some_iff.2 hplace] at hnone
    cases hnone
  · intro hstarts
    cases h : token? cs with
    | none => rfl
    | some found => exact absurd ⟨found.1, found.2, token?_eq_some_iff.1 h⟩ hstarts

/-- No place starts in `text` when `after` stands behind it. -/
def IsPlain : List Char → List Char → Prop
  | [], _ => True
  | c :: text, after => ¬StartsPlace (c :: (text ++ after)) ∧ IsPlain text after

/-- A text as a span, if there is any. -/
def literals (text : List Char) : List Span := if text = [] then [] else [.literal text]

/-- The cuts of a text. Where no place is left the rest is a literal; otherwise the first place ends
at its first closing brace, and the text behind it is cut on its own. -/
inductive Cuts : List Char → List Span → Prop where
  | literal {text : List Char} : IsPlain text [] → Cuts text (literals text)
  | place {text body after : List Char} {ss : List Span} :
      IsPlain text ('$' :: '{' :: (body ++ '}' :: after)) → body ≠ [] → '}' ∉ body →
      Cuts after ss →
      Cuts (text ++ '$' :: '{' :: (body ++ '}' :: after)) (literals text ++ .token body :: ss)

theorem push_literals (c : Char) (text : List Char) : push c (literals text) = literals (c :: text) := by
  cases text <;> rfl

theorem push_literals_token (c : Char) (text body : List Char) (ss : List Span) :
    push c (literals text ++ .token body :: ss) = literals (c :: text) ++ .token body :: ss := by
  cases text <;> rfl

theorem foldr_push_token (text body : List Char) (ss : List Span) :
    text.foldr push (.token body :: ss) = literals text ++ .token body :: ss := by
  induction text with
  | nil => rfl
  | cons c text ih => rw [List.foldr_cons, ih, push_literals_token]

theorem foldr_push_nil (text : List Char) : text.foldr push [] = literals text := by
  induction text with
  | nil => rfl
  | cons c text ih => rw [List.foldr_cons, ih, push_literals]

/-- A character at which no place starts goes into the literal behind it. -/
theorem Cuts.push {c : Char} {cs : List Char} {ss : List Span} (hc : ¬StartsPlace (c :: cs))
    (h : Cuts cs ss) : Cuts (c :: cs) (push c ss) := by
  cases h with
  | literal hplain =>
    rw [push_literals]
    exact .literal ⟨by rwa [List.append_nil], hplain⟩
  | place hplain hne hbody hrest =>
    rw [push_literals_token]
    exact @Cuts.place (c :: _) _ _ _ ⟨hc, hplain⟩ hne hbody hrest

theorem cuts_spans (cs : List Char) : Cuts cs (spans cs) := by
  -- Along the scan: at a place a cut starts anew, any other character joins the cut behind it.
  fun_induction spans cs with
  | case1 cs body after htoken ih =>
    obtain ⟨rfl, hne, hbody⟩ := token?_eq_some_iff.1 htoken
    exact @Cuts.place [] _ _ _ trivial hne hbody ih
  | case2 => exact @Cuts.literal [] trivial
  | case3 c rest htoken ih => exact ih.push (token?_eq_none_iff.1 htoken)

theorem spans_cons {c : Char} {cs : List Char} (h : ¬StartsPlace (c :: cs)) :
    spans (c :: cs) = Template.push c (spans cs) := by
  rw [spans]
  split
  · next htoken => exact absurd ⟨_, _, token?_eq_some_iff.1 htoken⟩ h
  · rfl

/-- The scan takes a part without places into the literal in front of what follows. -/
theorem spans_plain {text after : List Char} (h : IsPlain text after) :
    spans (text ++ after) = text.foldr Template.push (spans after) := by
  induction text with
  | nil => rfl
  | cons c text ih => rw [List.cons_append, spans_cons h.1, ih h.2, List.foldr_cons]

theorem spans_place {body after : List Char} (hne : body ≠ []) (hbody : '}' ∉ body) :
    spans ('$' :: '{' :: (body ++ '}' :: after)) = .token body :: spans after := by
  have htoken := token?_eq_some_iff.2 ⟨(rfl : '$' :: '{' :: (body ++ '}' :: after) = _), hne, hbody⟩
  rw [spans]
  split
  · next found =>
    obtain ⟨rfl, rfl⟩ := Prod.mk.inj (Option.some.inj (htoken.symm.trans found))
    rfl
  · next hnone => cases htoken.symm.trans hnone

theorem Cuts.eq_spans {cs : List Char} {ss : List Span} (h : Cuts cs ss) : ss = spans cs := by
  induction h with
  | @literal text hplain =>
    have hspans := spans_plain hplain
    rw [List.append_nil] at hspans
    rw [hspans, ← foldr_push_nil, spans]
    rfl
  | place hplain hne hbody _ ih =>
    rw [spans_plain hplain, spans_place hne hbody, foldr_push_token, ih]

theorem cuts_iff {cs : List Char} {ss : List Span} : Cuts cs ss ↔ ss = spans cs :=
  ⟨Cuts.eq_spans, fun h => h ▸ cuts_spans cs⟩

/-! ## Filling in -/

/-- What stands between the ends of a place. -/
def Span.body? : Span → Option (List Char)
  | .literal _ => none
  | .token body => some body

/-- Blanks on both sides of a name do not count, those within it do. -/
theorem nameOf_eq_iff {body : List Char} {name : String} :
    nameOf body = name ↔ Text.IsTrimmed name.toList ∧ ∃ before after,
      body = before ++ name.toList ++ after ∧ (∀ c ∈ before, Text.isBlank c = true) ∧
        ∀ c ∈ after, Text.isBlank c = true := by
  rw [nameOf, Text.trim_eq_iff, String.toList_ofList]

/-- The text that takes the place of a span: a literal is its own, a place has the value of its
name. -/
def Span.filled (lookup : String → Option String) : Span → List Char
  | .literal text => text
  | .token body => ((lookup (nameOf body)).getD "").toList

variable {lookup : String → Option String}

/-- The first of some names that has no value. -/
def missing? (lookup : String → Option String) (names : List String) : Option String :=
  names.find? fun n => (lookup n).isNone

theorem missing?_eq_none_iff {names : List String} :
    missing? lookup names = none ↔ ∀ n ∈ names, (lookup n).isSome := by
  simp [missing?, Option.isSome_iff_ne_none]

/-- Filling in finds the first name without a value, or goes span by span. -/
theorem fill_eq (ss : List Span) :
    fill lookup ss = match missing? lookup (namesOf ss) with
      | some n => .error n
      | none => .ok (ss.flatMap (Span.filled lookup)) := by
  induction ss with
  | nil => rfl
  | cons s ss ih =>
    cases s with
    | literal text =>
      have hnames : namesOf (.literal text :: ss) = namesOf ss := rfl
      rw [fill, ih, hnames]
      cases missing? lookup (namesOf ss) <;> rfl
    | token body =>
      have hnames : namesOf (.token body :: ss) = nameOf body :: namesOf ss := rfl
      rw [fill, ih, hnames]
      cases hvalue : lookup (nameOf body) with
      | none => simp [missing?, hvalue]
      | some value =>
        have hrest : missing? lookup (nameOf body :: namesOf ss) = missing? lookup (namesOf ss) := by
          simp [missing?, hvalue]
        rw [hrest]
        cases missing? lookup (namesOf ss) with
        | some n => rfl
        | none => simp [Except.map, Span.filled, hvalue]

theorem fill_eq_ok_iff {ss : List Span} {cs : List Char} :
    fill lookup ss = .ok cs ↔
      (∀ n ∈ namesOf ss, (lookup n).isSome) ∧ cs = ss.flatMap (Span.filled lookup) := by
  rw [fill_eq, ← missing?_eq_none_iff]
  cases missing? lookup (namesOf ss) <;> simp [eq_comm]

theorem fill_eq_error_iff {ss : List Span} {n : String} :
    fill lookup ss = .error n ↔ missing? lookup (namesOf ss) = some n := by
  rw [fill_eq]
  cases missing? lookup (namesOf ss) <;> simp

/-- What a template with the spans `ss`, which stands in `field`, is resolved to: the text in which
every place has its value, or the failure that names the first place without one. -/
structure IsFilledIn (lookup : String → Option String) (field : String) (ss : List Span)
    (r : Except Failure String) : Prop where
  ok : ∀ text, r = .ok text ↔
    (∀ n ∈ namesOf ss, (lookup n).isSome) ∧ text.toList = ss.flatMap (Span.filled lookup)
  error : ∀ f, r = .error f ↔ ∃ n, missing? lookup (namesOf ss) = some n ∧ f = .unresolved n field

/-- The result of resolving as that of a field. -/
def inField (field : String) : Except String String → Except Failure String
  | .ok text => .ok text
  | .error name => .error (.unresolved name field)

theorem substitute_text (lookup : String → Option String) (template field : String) :
    Config.substitute lookup field (.text template) =
      (inField field (resolve lookup template)).map .text := by
  rw [Config.substitute]
  cases resolve lookup template <;> rfl

theorem isFilledIn (lookup : String → Option String) (template field : String) :
    IsFilledIn lookup field (spans template.toList) (inField field (resolve lookup template)) := by
  cases hfill : fill lookup (spans template.toList) with
  | ok cs =>
    have hresolve : inField field (resolve lookup template) = .ok (String.ofList cs) := by
      rw [resolve, hfill]
      rfl
    obtain ⟨hvalues, rfl⟩ := fill_eq_ok_iff.1 hfill
    rw [hresolve]
    refine ⟨fun text => ?_, fun f => ?_⟩
    · rw [Except.ok.injEq, and_iff_right hvalues, ← String.toList_inj, String.toList_ofList, eq_comm]
    · simp [missing?_eq_none_iff.2 hvalues]
  | error n =>
    have hresolve : inField field (resolve lookup template) = .error (.unresolved n field) := by
      rw [resolve, hfill]
      rfl
    have hmissing := fill_eq_error_iff.1 hfill
    rw [hresolve]
    refine ⟨fun text => ?_, fun f => ?_⟩
    · rw [← missing?_eq_none_iff, hmissing]
      simp
    · simp [hmissing, eq_comm]

/-- An empty place and one without an end stay as they are, and a value is not read again. -/
example : resolve (fun n => if n = "a" then some "$\x7ba\x7d" else none)
    "$\x7b\x7d$$\x7b a \x7d$\x7bopen" = .ok "$\x7b\x7d$$\x7ba\x7d$\x7bopen" := by
  cbv

end Template
end Walkthrough
