import Walkthrough.Json.Printer
import Walkthrough.Text.Base64
import Walkthrough.Text.Blank
import Walkthrough.WebDriver.Exchange

/-!
# Walkthrough.WebDriver.Http

Requests and replies as the bytes that a connection carries. A connection is used for one request,
so that a reply ends with it unless the reply itself says otherwise.

* `Request.bytes` writes a request, `replyOf?` reads a reply as far as it is there.
-/

namespace Walkthrough
namespace WebDriver

open Json

/-- The end of a line. -/
def lineEnd : String := "\r\n"

/-- The host and the port of an address. -/
def hostText (a : Url.Authority) : String :=
  String.ofList (a.host ++ match a.port with
    | none => []
    | some p => ':' :: (Nat.repr p).toList)

/-- The lines about the name and the password in an address. -/
def credentialLines (a : Url.Authority) : List String :=
  match Text.dropEndWhile (· = '@') a.credentials with
  | [] => []
  | cs =>
    let pair := if cs.contains ':' then cs else cs ++ [':']
    ["authorization: Basic " ++ Text.Base64.encode ⟨(Url.decodeBytes pair).toArray⟩]

/-- The bytes of a request. -/
def Request.bytes (r : Request) : ByteArray :=
  let body := match r.body with
    | none => ByteArray.empty
    | some v => (compact v).toUTF8
  let about := match r.address.authority with
    | none => []
    | some a => ("host: " ++ hostText a) :: credentialLines a
  let content := match r.body with
    | none => []
    | some _ => ["content-type: application/json", "content-length: " ++ Nat.repr body.size]
  let first := r.method.word ++ " " ++ r.address.target ++ " HTTP/1.1"
  let lines := first :: (about ++ ["accept: */*", "connection: close"] ++ content)
  (String.join (lines.map fun l => l ++ lineEnd) ++ lineEnd).toUTF8 ++ body

/-- The start of the next line of some bytes, and the line that starts at a place; at most so many
bytes are looked at. -/
def lineAux (data : ByteArray) (start : Nat) : Nat → Nat → Option (String × Nat)
  | 0, _ => none
  | fuel + 1, i =>
    match data[i]?, data[i + 1]? with
    | some 13, some 10 => (String.fromUTF8? (data.extract start i)).map fun l => (l, i + 2)
    | some _, some _ => lineAux data start fuel (i + 1)
    | _, _ => none

/-- The line at a place, and the start of the next one. -/
def line? (data : ByteArray) (start : Nat) : Option (String × Nat) :=
  lineAux data start data.size start

/-- A field of a reply: its name in small letters, and its value. -/
def field? (line : String) : Option (String × String) :=
  (Text.splitFirst ':' line.toList).map fun f =>
    (Text.lowerAscii (String.ofList f.1), Text.trim (String.ofList f.2))

/-- The fields from a place on, up to an empty line, and the start of what follows it. -/
def fieldsAux (data : ByteArray) : Nat → Nat → Option (List (String × String) × Nat)
  | 0, _ => none
  | fuel + 1, start => do
    let (line, next) ← line? data start
    if line.isEmpty then return ([], next)
    else
      let (fields, finish) ← fieldsAux data fuel next
      return ((field? line).toList ++ fields, finish)

/-- Pieces, each after its size, up to an empty one. -/
def piecesAux (data : ByteArray) : Nat → Nat → ByteArray → Option ByteArray
  | 0, _, _ => none
  | fuel + 1, start, out => do
    let (line, next) ← line? data start
    let size ← Text.hexNumber? (line.toList.takeWhile fun c => (Text.hexValue? c).isSome)
    if size = 0 then return out
    else if data.size < next + size + 2 then none
    else piecesAux data fuel (next + size + 2) (out ++ data.extract next (next + size))

/-- The whole body of a reply with the given fields, which starts at a place. A body of which
nothing else is said goes on to the end of the connection. -/
def body? (data : ByteArray) (start : Nat) (fields : List (String × String)) (ended : Bool) :
    Option ByteArray :=
  if (fields.lookup "transfer-encoding").any fun v => Text.lowerAscii v = "chunked" then
    piecesAux data data.size start ByteArray.empty
  else
    match (fields.lookup "content-length").bind String.toNat? with
    | none => if ended then some (data.extract start data.size) else none
    | some size =>
      if data.size < start + size then none else some (data.extract start (start + size))

/-- The status in the first line of a reply. -/
def status? (line : String) : Option Nat :=
  match Text.words line with
  | version :: status :: _ =>
    if "HTTP/".toList.isPrefixOf version.toList then status.toNat? else none
  | _ => none

/-- The reply in the bytes of a connection, if it is there; `ended` says that no more bytes come.
The body of a reply that breaks off is lost. -/
def replyOf? (data : ByteArray) (ended : Bool) : Option Reply := do
  let (line, next) ← line? data 0
  let status ← status? line
  let (fields, start) ← fieldsAux data data.size next
  match body? data start fields ended with
  | some body => return ⟨status, body⟩
  | none => if ended then return ⟨status, ByteArray.empty⟩ else none

end WebDriver
end Walkthrough
