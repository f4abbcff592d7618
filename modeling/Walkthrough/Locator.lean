import Walkthrough.Text.Blank
import Walkthrough.Text.Search

/-!
# Walkthrough.Locator

How an element of a page is described: a strategy, a colon and a value, as in `id:login`.

* `Locator.parse` keeps everything after the first colon unchanged.
* `Strategy.ofWord?_word` says that every strategy is found by its word.
-/

namespace Walkthrough

/-- What the value of a locator is compared with. -/
inductive Locator.Strategy where
  | id
  | className
  | xpath
  | css
  | name
  | tag
  | linkText
  | partialLinkText
deriving DecidableEq, Repr

/-- The description of an element. -/
structure Locator where
  strategy : Locator.Strategy
  value : String
deriving DecidableEq, Repr

namespace Locator

namespace Strategy

def all : List Strategy :=
  [.id, .className, .xpath, .css, .name, .tag, .linkText, .partialLinkText]

/-- The word in front of the colon. -/
def word : Strategy → String
  | .id => "id"
  | .className => "class"
  | .xpath => "xpath"
  | .css => "css"
  | .name => "name"
  | .tag => "tag"
  | .linkText => "link_text"
  | .partialLinkText => "partial_link_text"

/-- The strategy that a word names. -/
def ofWord? (s : String) : Option Strategy := all.find? fun t => t.word = s

theorem ofWord?_word (s : Strategy) : ofWord? s.word = some s := by
  cases s <;> decide

end Strategy

/-- A reason why a text describes no element. -/
inductive Fault where
  | noColon
  | unknownStrategy
  | emptyValue
deriving DecidableEq, Repr

def Fault.message : Fault → String
  | .noColon => "expected 'strategy:value'"
  | .unknownStrategy => "unknown locator strategy"
  | .emptyValue => "locator value is empty"

/-- The text of a locator. -/
def text (l : Locator) : String := l.strategy.word ++ ":" ++ l.value

/-- Read a locator. Blanks around the strategy mean nothing, those of the value belong to it. -/
def parse (s : String) : Except Fault Locator :=
  match Text.splitFirst ':' s.toList with
  | none => .error .noColon
  | some (word, value) =>
    match Strategy.ofWord? (Text.trim (String.ofList word)) with
    | none => .error .unknownStrategy
    | some strategy =>
      if value.all Text.isBlank then .error .emptyValue
      else .ok ⟨strategy, String.ofList value⟩

end Locator
end Walkthrough
