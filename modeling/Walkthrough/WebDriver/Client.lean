import Walkthrough.Browser.Call
import Walkthrough.Config.Plan
import Walkthrough.Picture.Gif
import Walkthrough.Power
import Walkthrough.Text.Base64
import Walkthrough.WebDriver.Reply
import Walkthrough.WebDriver.Wire

/-!
# Walkthrough.WebDriver.Client

Browser sessions over the WebDriver protocol.

* `Setup.start` opens a session and arms its limits; a session that cannot be set up is closed.
* `Client.perform` carries out the calls of a browser.
* `Client.capture` takes one picture of a recording; when it stops, the pictures make an animation.
-/

namespace Walkthrough
namespace WebDriver

open Browser Json

/-- Send a request to an address and take the value of the reply. -/
def request (method : Method) (address : String) (body : Option Value) : Talk Value :=
  ExceptT.mk do
    match addressOf address with
    | .error f => return .error f
    | .ok u =>
      match ← Exchange.ask ⟨method, u, body⟩ with
      | .error o => return .error (o.fault u)
      | .ok reply => return reply.value address

/-- The key of a reference to an element. -/
def elementKey : String := "element-6066-11e4-a52e-4f735466cecf"

/-- The key of a reference in older drivers. -/
def oldElementKey : String := "ELEMENT"

/-- The element that a value refers to. -/
def elementOf? (v : Value) : Option Handle :=
  (((v.member? elementKey).or (v.member? oldElementKey)).bind Value.text?).map Handle.mk

/-- A value where a text was expected. -/
def noText (origin : String) (v : Value) : Browser.Fault :=
  .broken ("expected a string from " ++ origin ++ ", got " ++ compact v) true

/-- A session at its address. -/
structure Session where
  address : String
deriving DecidableEq, Repr

namespace Session

def get (s : Session) (path : String) : Talk Value := request .get (s.address ++ path) none

def post (s : Session) (path : String) (body : Value) : Talk Value :=
  request .post (s.address ++ path) (some body)

def delete (s : Session) (path : String) : Talk Value := request .delete (s.address ++ path) none

/-- Do something whose value does not matter. -/
def order (s : Session) (path : String) (body : Value) : Talk Unit := do
  let _ ← s.post path body

def getText (s : Session) (path : String) : Talk String := do
  let v ← s.get path
  match v.text? with
  | some t => return t
  | none => throw (noText path v)

/-- The path of a command on an element. -/
def ofElement (e : Handle) (command : String) : String := "/element/" ++ e.id ++ "/" ++ command

/-- Nothing more to say. -/
def noBody : Value := .object []

/-- How elements are asked for. -/
def search (pair : String × String) : Value :=
  .object [("using", .text pair.1), ("value", .text pair.2)]

def navigate (s : Session) (url : String) : Talk Unit :=
  s.order "/url" (.object [("url", .text url)])

/-- Find an element; one that is missing is named by its locator. -/
def find (s : Session) (l : Locator) : Talk Handle := do
  let found ← ExceptT.mk do
    match ← (s.post "/element" (search (wireLocator l))).run with
    | .error (.notFound _) => return .error (.notFound l.text)
    | r => return r
  match elementOf? found with
  | some e => return e
  | none => throw (.broken ("malformed element reference: " ++ compact found) true)

def count (s : Session) (l : Locator) : Talk Nat := do
  match ← s.post "/elements" (search (wireLocator l)) with
  | .array items => return items.length
  | _ => return 0

def click (s : Session) (e : Handle) : Talk Unit := s.order (ofElement e "click") noBody

/-- Buttons of a mouse. -/
inductive Button where
  | left
  | right
deriving DecidableEq, Repr

def Button.number : Button → Nat
  | .left => 0
  | .right => 2

/-- Press and release a button. -/
def clickWith (b : Button) : List Value :=
  ["pointerDown", "pointerUp"].map fun kind =>
    .object [("type", .text kind), ("button", .ofNat b.number)]

/-- Move the mouse to the middle of an element. -/
def moveTo (e : Handle) : Value :=
  .object
    [("type", .text "pointerMove"), ("duration", .ofNat 0),
      ("origin", .object [(elementKey, .text e.id)]), ("x", .ofNat 0), ("y", .ofNat 0)]

/-- Do things with the mouse on an element, then let go of everything. -/
def withMouse (s : Session) (e : Handle) (actions : List Value) : Talk Unit := do
  let pointer : Value :=
    .object
      [("type", .text "pointer"), ("id", .text "mouse"),
        ("parameters", .object [("pointerType", .text "mouse")]),
        ("actions", .array (moveTo e :: actions))]
  s.order "/actions" (.object [("actions", .array [pointer])])
  let _ ← s.delete "/actions"

/-- The elements inside another one. -/
def children (s : Session) (e : Handle) (pair : String × String) : Talk (List Handle) := do
  match ← s.post (ofElement e "elements") (search pair) with
  | .array items => return items.filterMap elementOf?
  | _ => return []

/-- Choose an option by its value, and by its text if there is none with the value. -/
def selectOption (s : Session) (e : Handle) (option : String) : Talk Unit := do
  let byValue := "option" ++ attributeSelector "value" option
  let byText := ".//option[normalize-space(.)=" ++ xpathLiteral option ++ "]"
  let options ← match ← s.children e ("css selector", byValue) with
    | [] => s.children e ("xpath", byText)
    | found => pure found
  match options with
  | [] => throw (.notFound ("option '" ++ option ++ "'"))
  | choice :: _ => s.click choice

def clear (s : Session) (e : Handle) : Talk Unit := s.order (ofElement e "clear") noBody

def typeText (s : Session) (e : Handle) (text : String) : Talk Unit :=
  s.order (ofElement e "value") (.object [("text", .text text)])

def isDisplayed (s : Session) (e : Handle) : Talk Bool := do
  match ← s.get (ofElement e "displayed") with
  | .boolean b => return b
  | _ => return false

/-- The value of an attribute; what is no text is written as a document. -/
def attributeOf (s : Session) (e : Handle) (name : String) : Talk (Option String) := do
  match ← s.get (ofElement e "attribute/" ++ name) with
  | .null => return none
  | .text t => return some t
  | v => return some (compact v)

/-- Take a picture of the page. -/
def screenshot (s : Session) : Talk ByteArray := do
  let v ← s.get "/screenshot"
  match v.text? with
  | none => throw (noText (s.address ++ "/screenshot") v)
  | some encoded =>
    match Text.Base64.decode (Text.trim encoded) with
    | .ok bytes => return bytes
    | .error f => throw (.broken ("invalid screenshot data: " ++ f.message) true)

def close (s : Session) : Talk Unit := do
  let _ ← s.delete ""

end Session

/-- Pictures that are being taken. -/
structure Recording where
  settings : Config.Video
  /-- The pictures, the latest first. -/
  frames : List ByteArray
  /-- No more pictures are taken. -/
  ended : Bool

namespace Recording

/-- The most pictures that a recording keeps. -/
def frameLimit : Nat := 600

def start (settings : Config.Video) : Recording := ⟨settings, [], false⟩

/-- The milliseconds from one picture to the next. -/
def interval (r : Recording) : Nat := Animation.interval r.settings.fps

/-- Keep a picture. -/
def add (r : Recording) (frame : ByteArray) : Recording :=
  { r with frames := frame :: r.frames, ended := r.ended || frameLimit ≤ r.frames.length + 1 }

/-- The bytes of the animation. -/
def animation (r : Recording) : Except Browser.Fault ByteArray :=
  let a := Animation.ofCaptures r.frames.reverse r.settings.fps
  (a.encode (.ofQuality r.settings.quality)).mapError fun f =>
    .broken ("GIF encoding failed: " ++ f.message) true

end Recording

/-- A session and its recording, if there is one. -/
structure Client where
  session : Session
  recording : Option Recording

namespace Client

/-- Talk without an effect on the recording. -/
def keeping {α : Type} (c : Client) (x : Talk α) :
    Exchange (Except Browser.Fault α × Client) := do
  return (← x.run, c)

/-- Take the next picture of the recording. One that fails is left out, unless the session is
lost. -/
def capture (c : Client) : Exchange Client := do
  match c.recording with
  | none => return c
  | some r =>
    if r.ended then return c
    else
      match ← c.session.screenshot.run with
      | .ok frame => return { c with recording := some (r.add frame) }
      | .error (.broken _ false) => return { c with recording := some { r with ended := true } }
      | .error _ => return c

/-- Carry out a call. -/
def perform (c : Client) : (call : Call) → Exchange (Except Browser.Fault call.Result × Client)
  | .navigate url => c.keeping (c.session.navigate url)
  | .find l => c.keeping (c.session.find l)
  | .click e => c.keeping (c.session.click e)
  | .doubleClick e =>
    c.keeping (c.session.withMouse e (Session.clickWith .left ++ Session.clickWith .left))
  | .contextClick e => c.keeping (c.session.withMouse e (Session.clickWith .right))
  | .hover e => c.keeping (c.session.withMouse e [])
  | .selectOption e option => c.keeping (c.session.selectOption e option)
  | .clear e => c.keeping (c.session.clear e)
  | .typeText e text => c.keeping (c.session.typeText e text)
  | .textOf e => c.keeping (c.session.getText (Session.ofElement e "text"))
  | .isDisplayed e => c.keeping (c.session.isDisplayed e)
  | .attributeOf e name => c.keeping (c.session.attributeOf e name)
  | .count l => c.keeping (c.session.count l)
  | .currentUrl => c.keeping (c.session.getText "/url")
  | .title => c.keeping (c.session.getText "/title")
  | .refresh => c.keeping (c.session.order "/refresh" Session.noBody)
  | .back => c.keeping (c.session.order "/back" Session.noBody)
  | .forward => c.keeping (c.session.order "/forward" Session.noBody)
  | .screenshot => c.keeping c.session.screenshot
  | .startVideo settings => return (.ok (), { c with recording := some (.start settings) })
  | .stopVideo =>
    match c.recording with
    | none => return (.ok ByteArray.empty, c)
    | some r => return (r.animation, { c with recording := none })
  | .close => ({ c with recording := none } : Client).keeping c.session.close

end Client

/-- What sessions are opened with. -/
structure Setup where
  /-- The address of the server, without slashes at its end. -/
  endpoint : String
  capabilities : Value
  /-- The limits of the browser itself. -/
  timeouts : Value
  window : Value

/-- Seconds in milliseconds, rounded; what is below zero counts as zero. -/
def millis (seconds : Binary64) : Nat :=
  if !seconds.isAboveZero then 0
  else
    let x := seconds.mul (Binary64.ofNat 1000)
    if x.isFinite then min x.roundMagnitude (twoTo 64 - 1) else twoTo 64 - 1

namespace Setup

/-- What a plan asks for. -/
def ofPlan (plan : Config.Plan) : Setup :=
  let framework := plan.master.framework
  let settings := plan.environment.browser
  let limits := plan.environment.timeouts
  { endpoint := String.ofList (Text.dropEndWhile (· = '/') framework.webdriverUrl.toList)
    capabilities := WebDriver.capabilities framework.browser settings
    timeouts := .object
      [("implicit", .ofNat (millis framework.implicitWait)),
        ("pageLoad", .ofNat (millis limits.pageLoadTimeout)),
        ("script", .ofNat (millis limits.scriptTimeout))]
    window := .object
      [("width", .ofNat settings.window.width), ("height", .ofNat settings.window.height)] }

/-- Arm the limits and size the window. -/
def configure (setup : Setup) (s : Session) : Talk Unit := do
  s.order "/timeouts" setup.timeouts
  s.order "/window/rect" setup.window

/-- Open a session. One that cannot be set up is closed again, whatever comes of that. -/
def start (setup : Setup) : Talk Client := do
  let address := setup.endpoint ++ "/session"
  let wish : Value := .object [("alwaysMatch", setup.capabilities)]
  let v ← request .post address (some (.object [("capabilities", wish)]))
  match (v.member? "sessionId").bind Value.text? with
  | none => throw (.broken ("no sessionId in response from " ++ address) false)
  | some id =>
    let session : Session := ⟨address ++ "/" ++ id⟩
    ExceptT.mk do
      match ← (setup.configure session).run with
      | .ok () => return .ok ⟨session, none⟩
      | .error f =>
        let _ ← session.close.run
        return .error f

end Setup
end WebDriver
end Walkthrough
