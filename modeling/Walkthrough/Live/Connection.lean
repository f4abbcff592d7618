import Std.Async.DNS
import Std.Async.TCP
import Walkthrough.Live.Patience
import Walkthrough.WebDriver.Http

/-!
# Walkthrough.Live.Connection

Requests over the network. Only plain connections are made: a host that wants another kind cannot
be reached.

* `fetch` sends a request and waits for the reply.
-/

namespace Walkthrough
namespace Live

open WebDriver
open Std.Net (IPAddr IPv4Addr IPv6Addr SocketAddress)
open Std.Async.TCP.Socket (Client)

/-- How many milliseconds a reply may take. -/
def replyLimit : Nat := 120000

/-- The port of an address that names none. -/
def usualPort : Nat := 80

/-- The numbers of a host. -/
def numbersOf (p : Patience) (host : List Char) : Waiting (List IPAddr) := do
  let name := String.ofList host
  let bare := String.ofList (host.filter fun c => c ≠ '[' && c ≠ ']')
  match IPv4Addr.ofString name, IPv6Addr.ofString bare with
  | some a, _ => return [.v4 a]
  | none, some a => return [.v6 a]
  | none, none =>
    match ← p.await (← (Std.Async.DNS.getAddrInfo name "").toIO) with
    | .ok found => return found.toList
    | .error _ => return []

/-- A port of a host by its numbers. -/
def portOf (port : Nat) : IPAddr → SocketAddress
  | .v4 a => .v4 ⟨a, UInt16.ofNat port⟩
  | .v6 a => .v6 ⟨a, UInt16.ofNat port⟩

/-- A connection to the first of some addresses that can be reached. -/
def connect (p : Patience) : List SocketAddress → Waiting (Option Client)
  | [] => return none
  | address :: rest => do
    let client ← (Client.mk : IO Client)
    match ← p.await (← (client.connect address).toIO) with
    | .ok () => return some client
    | .error _ => connect p rest

/-- How many bytes are taken at a time. -/
def portion : UInt64 := 65536

/-- Wait for a reply on a connection. -/
def receive (p : Patience) (client : Client) : Waiting (Except Outage Reply) := do
  let mut data := ByteArray.empty
  repeat
    match ← p.await (← (client.recv? portion).toIO) with
    | .ok (some bytes) =>
      data := data ++ bytes
      match replyOf? data false with
      | some reply => return .ok reply
      | none => pure ()
    | _ => break
  match replyOf? data true with
  | some reply => return .ok reply
  | none => return .error .dropped

/-- Send a request on a connection of its own. -/
def exchange (r : Request) (p : Patience) : Waiting (Except Outage Reply) := do
  match r.address.authority with
  | none => return .error .unreachable
  | some a =>
    if String.ofList r.address.scheme ≠ "http" then return .error .unreachable
    else
      let numbers ← numbersOf p a.host
      match ← connect p (numbers.map (portOf (a.port.getD usualPort))) with
      | none => return .error .unreachable
      | some client =>
        match ← p.await (← (client.send r.bytes).toIO) with
        | .error _ => return .error .dropped
        | .ok () => receive p client

/-- Send a request and wait for the reply. -/
def fetch (p : Patience) (r : Request) : Waiting (Except Outage Reply) :=
  tryCatch (p.within replyLimit .overdue (exchange r)) fun why =>
    if why = .overdue then return .error .overdue else throw why

end Live
end Walkthrough
