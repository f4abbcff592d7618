import Walkthrough.Browser.Fault
import Walkthrough.Config.Settings
import Walkthrough.Locator

/-!
# Walkthrough.Browser.Call

What can be asked of a browser session, and what each call answers.

* `Call.operation` names a call in messages, `Call.name` and `Call.arguments` in logs.
* `Call.isCapture` tells the calls that only look at the page from outside.
-/

namespace Walkthrough
namespace Browser

/-- An element that was found on a page. -/
structure Handle where
  id : String
deriving DecidableEq, Repr

inductive Call where
  | navigate (url : String)
  | find (locator : Locator)
  | click (element : Handle)
  | doubleClick (element : Handle)
  | contextClick (element : Handle)
  | hover (element : Handle)
  | selectOption (element : Handle) (option : String)
  | clear (element : Handle)
  | typeText (element : Handle) (text : String)
  | textOf (element : Handle)
  | isDisplayed (element : Handle)
  | attributeOf (element : Handle) (name : String)
  | count (locator : Locator)
  | currentUrl
  | title
  | refresh
  | back
  | forward
  | screenshot
  | startVideo (settings : Config.Video)
  | stopVideo
  | close
deriving DecidableEq, Repr

namespace Call

/-- What a call answers when it succeeds. -/
def Result : Call → Type
  | .find _ => Handle
  | .textOf _ => String
  | .isDisplayed _ => Bool
  | .attributeOf _ _ => Option String
  | .count _ => Nat
  | .currentUrl => String
  | .title => String
  | .screenshot => ByteArray
  | .stopVideo => ByteArray
  | _ => Unit

/-- What is being done, in messages about time. -/
def operation : Call → String
  | .navigate _ => "page load"
  | .find _ => "find element"
  | .click _ => "click"
  | .doubleClick _ => "double click"
  | .contextClick _ => "right click"
  | .hover _ => "hover"
  | .selectOption _ _ => "select option"
  | .clear _ => "clear"
  | .typeText _ _ => "type"
  | .textOf _ => "read text"
  | .isDisplayed _ => "check visibility"
  | .attributeOf _ _ => "read attribute"
  | .count _ => "count elements"
  | .currentUrl => "read url"
  | .title => "read title"
  | .refresh => "refresh"
  | .back => "back"
  | .forward => "forward"
  | .screenshot => "screenshot"
  | .startVideo _ => "start video"
  | .stopVideo => "stop video"
  | .close => "close"

/-- The name of a call in logs. -/
def name : Call → String
  | .navigate _ => "navigate"
  | .find _ => "find"
  | .click _ => "click"
  | .doubleClick _ => "double_click"
  | .contextClick _ => "context_click"
  | .hover _ => "hover"
  | .selectOption _ _ => "select_option"
  | .clear _ => "clear"
  | .typeText _ _ => "type_text"
  | .textOf _ => "text_of"
  | .isDisplayed _ => "is_displayed"
  | .attributeOf _ _ => "attribute"
  | .count _ => "count"
  | .currentUrl => "current_url"
  | .title => "title"
  | .refresh => "refresh"
  | .back => "back"
  | .forward => "forward"
  | .screenshot => "screenshot"
  | .startVideo _ => "start_video"
  | .stopVideo => "stop_video"
  | .close => "close"

def flagWord (b : Bool) : String := if b then "true" else "false"

/-- The arguments of a call in logs. -/
def arguments : Call → List String
  | .navigate url => [url]
  | .find l => [l.text]
  | .click e => [e.id]
  | .doubleClick e => [e.id]
  | .contextClick e => [e.id]
  | .hover e => [e.id]
  | .selectOption e option => [e.id, option]
  | .clear e => [e.id]
  | .typeText e text => [e.id, text]
  | .textOf e => [e.id]
  | .isDisplayed e => [e.id]
  | .attributeOf e name => [e.id, name]
  | .count l => [l.text]
  | .startVideo v => [Nat.repr v.fps ++ " " ++ v.quality ++ " " ++ flagWord v.compression]
  | _ => []

/-- Does the call only capture what is there? -/
def isCapture : Call → Bool
  | .screenshot | .startVideo _ | .stopVideo => true
  | _ => false

/-- Does a recording start with the call? -/
def startsVideo : Call → Bool
  | .startVideo _ => true
  | _ => false

end Call
end Browser
end Walkthrough
