import Walkthrough.Text.Blank
import Walkthrough.Text.Search

/-!
# Walkthrough.Action.Kind

The kinds of action that a step may ask for.

* `Kind.needsElement` tells those that work on an element from those that work on the page.
* `Kind.ofWord?_word` says that every kind is found by its word.
-/

namespace Walkthrough

inductive Action.Kind where
  | navigate
  | inputText
  | click
  | doubleClick
  | rightClick
  | hover
  | clearText
  | selectDropdown
  | assertElementText
  | assertElementCount
  | assertElementVisible
  | assertElementNotVisible
  | assertElementAttribute
  | assertUrlContains
  | assertTitleContains
  | waitForElement
  | waitForText
  | refresh
  | back
  | forward
  | wait
deriving DecidableEq, Repr

namespace Action.Kind

def all : List Kind :=
  [.navigate, .inputText, .click, .doubleClick, .rightClick, .hover, .clearText, .selectDropdown,
    .assertElementText, .assertElementCount, .assertElementVisible, .assertElementNotVisible,
    .assertElementAttribute, .assertUrlContains, .assertTitleContains, .waitForElement,
    .waitForText, .refresh, .back, .forward, .wait]

/-- The word of a kind in documents and reports. -/
def word : Kind → String
  | .navigate => "navigate"
  | .inputText => "input_text"
  | .click => "click"
  | .doubleClick => "double_click"
  | .rightClick => "right_click"
  | .hover => "hover"
  | .clearText => "clear_text"
  | .selectDropdown => "select_dropdown"
  | .assertElementText => "assert_element_text"
  | .assertElementCount => "assert_element_count"
  | .assertElementVisible => "assert_element_visible"
  | .assertElementNotVisible => "assert_element_not_visible"
  | .assertElementAttribute => "assert_element_attribute"
  | .assertUrlContains => "assert_url_contains"
  | .assertTitleContains => "assert_title_contains"
  | .waitForElement => "wait_for_element"
  | .waitForText => "wait_for_text"
  | .refresh => "refresh"
  | .back => "back"
  | .forward => "forward"
  | .wait => "wait"

/-- Does the action work on an element rather than on the page as a whole? -/
def needsElement : Kind → Bool
  | .inputText | .click | .doubleClick | .rightClick | .hover | .clearText | .selectDropdown
  | .assertElementText | .assertElementCount | .assertElementVisible | .assertElementNotVisible
  | .assertElementAttribute | .waitForElement | .waitForText => true
  | _ => false

theorem mem_all (k : Kind) : k ∈ all := by
  cases k <;> decide

/-- The kind that a word names exactly. -/
def ofWord? (s : String) : Option Kind := all.find? fun k => k.word = s

theorem ofWord?_word (k : Kind) : ofWord? k.word = some k := by
  cases k <;> decide

/-- Read a kind. Blanks around the word and the case of its ASCII letters mean nothing. -/
def parse? (s : String) : Option Kind := ofWord? (Text.lowerAscii (Text.trim s))

end Action.Kind
end Walkthrough
