import Walkthrough.Browser.Fault
import Walkthrough.Json.Value
import Walkthrough.Url.Parser

/-!
# Walkthrough.WebDriver.Exchange

Requests to a server and its replies, and activities that consist of them.

* `Exchange` is a monad (`bind_pure`, `bind_assoc`); `Exchange.run` has any peer answer, and
  `run_bind` says that it keeps to the order of the requests.
* `addressOf` is the address of a request, and `Outage.fault` what a session makes of a request
  without a reply.
-/

namespace Walkthrough
namespace WebDriver

open Browser

inductive Method where
  | get
  | post
  | delete
deriving DecidableEq, Repr

def Method.word : Method → String
  | .get => "GET"
  | .post => "POST"
  | .delete => "DELETE"

structure Request where
  method : Method
  address : Url
  body : Option Json.Value

/-- Why no reply came. -/
inductive Outage where
  /-- Nobody listens at the address. -/
  | unreachable
  /-- The connection was closed before the reply. -/
  | dropped
  /-- The reply took too long. -/
  | overdue
deriving DecidableEq, Repr

structure Reply where
  status : Nat
  body : ByteArray

/-- An activity of requests and replies that ends with a value. -/
inductive Exchange (α : Type) where
  | done (a : α)
  | send (r : Request) (k : Except Outage Reply → Exchange α)

namespace Exchange

/-- Go on with the value of an activity. -/
def bind {α β : Type} : Exchange α → (α → Exchange β) → Exchange β
  | .done a, f => f a
  | .send r k, f => .send r fun reply => (k reply).bind f

instance : Monad Exchange where
  pure := Exchange.done
  bind := Exchange.bind

/-- The activity of a single request. -/
def ask (r : Request) : Exchange (Except Outage Reply) := .send r .done

/-- Have a peer answer every request. -/
def run {m : Type → Type} [Monad m] {α : Type} (peer : Request → m (Except Outage Reply)) :
    Exchange α → m α
  | .done a => pure a
  | .send r k => peer r >>= fun reply => (k reply).run peer

theorem done_bind {α β : Type} (a : α) (f : α → Exchange β) : (Exchange.done a).bind f = f a := rfl

theorem bind_done {α : Type} (x : Exchange α) : x.bind .done = x := by
  induction x with
  | done a => rfl
  | send r k ih => simp only [bind, ih]

theorem bind_assoc {α β γ : Type} (x : Exchange α) (f : α → Exchange β) (g : β → Exchange γ) :
    (x.bind f).bind g = x.bind fun a => (f a).bind g := by
  induction x with
  | done a => rfl
  | send r k ih => simp only [bind, ih]

theorem run_bind {m : Type → Type} [Monad m] [LawfulMonad m] {α β : Type}
    (peer : Request → m (Except Outage Reply)) (x : Exchange α) (f : α → Exchange β) :
    (x.bind f).run peer = x.run peer >>= fun a => (f a).run peer := by
  induction x with
  | done a => simp [bind, run]
  | send r k ih => simp only [bind, run, ih, LawfulMonad.bind_assoc]

end Exchange

/-- An activity that may fail. -/
abbrev Talk (α : Type) : Type := ExceptT Browser.Fault Exchange α

/-- An address as messages show it, without a name and a password. -/
def shown (u : Url) : String :=
  let plain (a : Url.Authority) : Url.Authority := { a with credentials := [] }
  { u with authority := u.authority.map plain }.render

/-- A request that was not even sent. -/
def notSent (address : String) : Browser.Fault :=
  .broken ("builder error for url (" ++ address ++ ")") true

/-- The schemes of servers. -/
def schemes : List String := ["http", "https"]

/-- The address that a text stands for: it names a host and one of the schemes of servers. -/
def addressOf (text : String) : Except Browser.Fault Url :=
  match Url.parse none text with
  | .error _ => .error (.broken "builder error" true)
  | .ok u =>
    if u.authority.all (·.host.isEmpty) then .error (notSent u.render)
    else if schemes.contains (String.ofList u.scheme) then .ok u
    else .error (notSent (shown u))

/-- What a request to an address without a reply means for a session. One that cannot be reached at
all is lost. -/
def Outage.fault (u : Url) (o : Outage) : Browser.Fault :=
  let text := "error sending request for url (" ++ shown u ++ ")"
  match o with
  | .unreachable => .broken ("cannot reach WebDriver: " ++ text) false
  | .dropped => .broken text true
  | .overdue => .timedOut text

end WebDriver
end Walkthrough
