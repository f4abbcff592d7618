import Walkthrough.Text.Blank
import Walkthrough.Text.Search

/-!
# Walkthrough.Template

Texts with places to fill in. A place is written `${name}`: at least one character other than a
closing brace between the two ends. What looks like the start of a place and is none stays as it
is.

* `render_spans` says that cutting a template into its spans loses nothing.
* `fill` looks every name up once; what is filled in is never cut again.
-/

namespace Walkthrough
namespace Template

/-- A part of a template. -/
inductive Span where
  | literal (text : List Char)
  /-- A place to fill in, with what stands between its ends. -/
  | token (body : List Char)
deriving DecidableEq, Repr

/-- The name that a place asks for. -/
def nameOf (body : List Char) : String := Text.trim (String.ofList body)

/-- The text of a span in the template. -/
def Span.render : Span → List Char
  | .literal text => text
  | .token body => '$' :: '{' :: (body ++ ['}'])

def render (spans : List Span) : List Char := spans.flatMap Span.render

/-- Put a character in front of the spans, into a literal that may be there. -/
def push (c : Char) : List Span → List Span
  | .literal text :: rest => .literal (c :: text) :: rest
  | rest => .literal [c] :: rest

/-- A place at the front of a text, and what follows it. -/
def token? : List Char → Option (List Char × List Char)
  | '$' :: '{' :: rest =>
    match Text.splitFirst '}' rest with
    | some (c :: body, after) => some (c :: body, after)
    | _ => none
  | _ => none

theorem token?_eq_some {cs body after : List Char} (h : token? cs = some (body, after)) :
    cs = '$' :: '{' :: (body ++ '}' :: after) ∧ body ≠ [] ∧ '}' ∉ body := by
  unfold token? at h
  split at h
  · split at h
    · next hs =>
      obtain ⟨rfl, rfl⟩ := Prod.mk.inj (Option.some.inj h)
      obtain ⟨rfl, hn⟩ := Text.splitFirst_eq_some_iff.1 hs
      exact ⟨rfl, List.cons_ne_nil _ _, hn⟩
    · cases h
  · cases h

theorem length_of_token? {cs body after : List Char} (h : token? cs = some (body, after)) :
    after.length < cs.length := by
  obtain ⟨rfl, _, _⟩ := token?_eq_some h
  simp only [List.length_cons, List.length_append]
  omega

/-- Cut a text into its spans, from left to right. -/
def spans (cs : List Char) : List Span :=
  match _h : token? cs with
  | some (body, after) => .token body :: spans after
  | none =>
    match cs with
    | [] => []
    | c :: rest => push c (spans rest)
termination_by cs.length
decreasing_by
  · exact length_of_token? _h
  · simp

/-- The names that a row of spans asks for. -/
def namesOf (ss : List Span) : List String :=
  ss.filterMap fun s =>
    match s with
    | .literal _ => none
    | .token body => some (nameOf body)

/-- The names that a template asks for, in order. -/
def names (template : String) : List String := namesOf (spans template.toList)

/-- The spans with every place filled in, or the first name without a value. -/
def fill (lookup : String → Option String) : List Span → Except String (List Char)
  | [] => .ok []
  | .literal text :: rest => (fill lookup rest).map (text ++ ·)
  | .token body :: rest =>
    match lookup (nameOf body) with
    | none => .error (nameOf body)
    | some value => (fill lookup rest).map (value.toList ++ ·)

/-- The text of a template, or the first name without a value. -/
def resolve (lookup : String → Option String) (template : String) : Except String String :=
  (fill lookup (spans template.toList)).map String.ofList

end Template
end Walkthrough
