import Walkthrough.Capture.Store
import Walkthrough.Rehearsal.Script
import Walkthrough.WebDriver.Client

/-!
# Walkthrough.Rehearsal.Server

A server that answers from a script, and the world of a run whose browsers are behind it.

* `Server.receive` answers a request with the next answer of its route.
* `served` is the world: replies come at once, captures are stored in a tree of files, and a
  recording holds the picture at its start.
-/

namespace Walkthrough
namespace Rehearsal

open WebDriver
open Run (World)

/-- What a server does with a request. -/
inductive Served where
  | reply (r : Reply)
  /-- Close the connection without a reply. -/
  | drop

/-- The reply to a request that the script says nothing about. -/
def Served.plain : Served := .reply ⟨200, "\x7b\"value\":null\x7d".toUTF8⟩

structure Server where
  /-- The answers under the methods and paths of their requests. -/
  routes : List (String × List Served)
  /-- Does anything that is sent arrive? -/
  isReachable : Bool
  /-- What was received, the latest first. -/
  received : List Request

namespace Server

/-- Take the next answer of a route. -/
def takeRoute (key : String) : List (String × List Served) → Served × List (String × List Served)
  | [] => (.plain, [])
  | (k, answers) :: rest =>
    if k = key then
      let (a, left) := takeFirst .plain answers
      (a, (k, left) :: rest)
    else
      let (a, left) := takeRoute key rest
      (a, (k, answers) :: left)

/-- Answer a request. -/
def receive (r : Request) : StateM Server (Except Outage Reply) := do
  let server ← get
  if !server.isReachable then return .error .unreachable
  else
    let (served, routes) := takeRoute (r.method.word ++ " " ++ r.address.target) server.routes
    set { server with routes := routes, received := r :: server.received }
    match served with
    | .reply reply => return .ok reply
    | .drop => return .error .dropped

end Server

/-- What a run with a scripted server works on. -/
structure Site where
  server : Server
  /-- The sessions in the order of their opening; those that were refused stay empty. -/
  clients : List (Option Client)
  files : Files.Tree

namespace Site

/-- Talk to the server. -/
def talk {α : Type} (site : Site) (x : Exchange α) : α × Site :=
  let (a, server) := (x.run Server.receive).run site.server
  (a, { site with server := server })

/-- Open a session. -/
def openClient (site : Site) (setup : Setup) : Except Browser.Fault Unit × Site :=
  match site.talk setup.start.run with
  | (.ok client, site) => (.ok (), { site with clients := site.clients ++ [some client] })
  | (.error f, site) => (.error f, { site with clients := site.clients ++ [none] })

/-- Carry out a call, and take the first picture of a recording that starts. -/
def call (site : Site) (session : Nat) (c : Browser.Call) : Except Browser.Fault c.Result × Site :=
  match site.clients[session]?.join with
  | none => (.error (.broken "no session" false), site)
  | some client =>
    let act : Exchange (Except Browser.Fault c.Result × Client) := do
      let (result, client) ← client.perform c
      if c.startsVideo then return (result, ← client.capture) else return (result, client)
    let ((result, client), site) := site.talk act
    (result, { site with clients := site.clients.set session (some client) })

end Site

/-- The world of a run whose captures go into a store, and whose clock starts at a date. -/
def served (setup : Setup) (store : Capture.Store) (start : Timestamp) : World Site where
  opening _ site :=
    let (result, site) := site.openClient setup
    (.atOnce result, site)
  reaction session c site :=
    let (result, site) := site.call session c
    (.atOnce result, site)
  settled _ _ site := site
  storing key bytes site :=
    match store.put key bytes site.files with
    | .ok (path, files) => (.atOnce (some path), { site with files := files })
    | .error _ => (.atOnce none, site)
  interrupts _ site := (false, site)
  wall millis := start.later millis

end Rehearsal
end Walkthrough
