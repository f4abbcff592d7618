import Walkthrough.Config.Environment
import Walkthrough.Json.Printer
import Walkthrough.Locator

/-!
# Walkthrough.WebDriver.Wire

How locators, texts and browser settings are written in the WebDriver protocol.

* `wireLocator` turns identifiers, classes and names into CSS selectors.
* `cssQuote` and `xpathLiteral` keep a text inside its quotes.
-/

namespace Walkthrough
namespace WebDriver

open Json

/-- A character between the quotes of a selector. -/
def escapeCss (c : Char) : List Char :=
  if c = '\\' ∨ c = '"' then ['\\', c] else [c]

/-- A text between the quotes of a selector. -/
def cssQuote (s : String) : String := Text.expand escapeCss s

/-- The selector of elements that have a value in an attribute. -/
def attributeSelector (name value : String) : String :=
  "[" ++ name ++ "=\"" ++ cssQuote value ++ "\"]"

/-- How a locator is written: the strategy and the value. -/
def wireLocator (l : Locator) : String × String :=
  match l.strategy with
  | .id => ("css selector", attributeSelector "id" l.value)
  | .className => ("css selector", "." ++ String.intercalate "." (Text.words l.value))
  | .name => ("css selector", attributeSelector "name" l.value)
  | .css => ("css selector", l.value)
  | .tag => ("tag name", l.value)
  | .xpath => ("xpath", l.value)
  | .linkText => ("link text", l.value)
  | .partialLinkText => ("partial link text", l.value)

/-- A text as a literal of XPath, which has no escapes: where both quotes occur, the literal is
put together from parts. -/
def xpathLiteral (s : String) : String :=
  if !s.toList.contains '"' then "\"" ++ s ++ "\""
  else if !s.toList.contains '\'' then "'" ++ s ++ "'"
  else
    let parts := (Text.splitAll '"' s.toList).map fun p => "\"" ++ String.ofList p ++ "\""
    "concat(" ++ String.intercalate ", '\"', " parts ++ ")"

/-- Texts as an array. -/
def textArray (xs : List String) : Value := .array (xs.map .text)

/-- What a session asks of the browser. -/
def capabilities (browser : String) (settings : Config.BrowserSettings) : Value :=
  let args (xs : List String) : Value := .object [("args", textArray xs)]
  let given (b : Bool) (arg : String) : List String := if b then [arg] else []
  match Text.lowerAscii browser with
  | "firefox" =>
    .object
      [("browserName", .text "firefox"),
        ("moz:firefoxOptions",
          args (given settings.headless "-headless" ++ given settings.incognito "-private"))]
  | other =>
    let edge := other = "edge"
    let size := "--window-size=" ++ Nat.repr settings.window.width ++ ","
      ++ Nat.repr settings.window.height
    let all := size :: (given settings.headless "--headless=new"
      ++ given settings.incognito (if edge then "--inprivate" else "--incognito"))
    if edge then
      .object [("browserName", .text "MicrosoftEdge"), ("ms:edgeOptions", args all)]
    else .object [("browserName", .text "chrome"), ("goog:chromeOptions", args all)]

end WebDriver
end Walkthrough
