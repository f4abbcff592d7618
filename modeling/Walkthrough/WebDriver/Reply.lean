import Walkthrough.Json.Schema
import Walkthrough.WebDriver.Exchange

/-!
# Walkthrough.WebDriver.Reply

What a reply of a WebDriver server says: a value, or the error that it names.

* `Reply.value` reads a reply; `refusal` sorts errors into the faults of a browser.
-/

namespace Walkthrough
namespace WebDriver

open Json

/-- The phrases that belong to the numbers of a status. -/
def phrases : List (Nat × String) :=
  [(100, "Continue"), (101, "Switching Protocols"), (102, "Processing"), (200, "OK"),
    (201, "Created"), (202, "Accepted"), (203, "Non Authoritative Information"),
    (204, "No Content"), (205, "Reset Content"), (206, "Partial Content"), (207, "Multi-Status"),
    (208, "Already Reported"), (226, "IM Used"), (300, "Multiple Choices"),
    (301, "Moved Permanently"), (302, "Found"), (303, "See Other"), (304, "Not Modified"),
    (305, "Use Proxy"), (307, "Temporary Redirect"), (308, "Permanent Redirect"),
    (400, "Bad Request"), (401, "Unauthorized"), (402, "Payment Required"), (403, "Forbidden"),
    (404, "Not Found"), (405, "Method Not Allowed"), (406, "Not Acceptable"),
    (407, "Proxy Authentication Required"), (408, "Request Timeout"), (409, "Conflict"),
    (410, "Gone"), (411, "Length Required"), (412, "Precondition Failed"),
    (413, "Payload Too Large"), (414, "URI Too Long"), (415, "Unsupported Media Type"),
    (416, "Range Not Satisfiable"), (417, "Expectation Failed"), (418, "I'm a teapot"),
    (421, "Misdirected Request"), (422, "Unprocessable Entity"), (423, "Locked"),
    (424, "Failed Dependency"), (426, "Upgrade Required"), (428, "Precondition Required"),
    (429, "Too Many Requests"), (431, "Request Header Fields Too Large"),
    (451, "Unavailable For Legal Reasons"), (500, "Internal Server Error"),
    (501, "Not Implemented"), (502, "Bad Gateway"), (503, "Service Unavailable"),
    (504, "Gateway Timeout"), (505, "HTTP Version Not Supported"),
    (506, "Variant Also Negotiates"), (507, "Insufficient Storage"), (508, "Loop Detected"),
    (510, "Not Extended"), (511, "Network Authentication Required")]

/-- A status in words. -/
def statusText (status : Nat) : String :=
  Nat.repr status ++ " " ++ (phrases.lookup status).getD "<unknown status code>"

/-- The outer form of every reply. -/
def replySchema : Schema := .record "WireResponse" (.optional "value" .any .nil)

/-- The value of a reply that was refused. -/
def errorSchema : Schema :=
  .record "WireError" (.required "error" .text <| .optional "message" .text .nil)

/-- The errors of an element that is not there, or not there any more. -/
def absences : List String := ["no such element", "stale element reference"]

/-- The errors of a browser that ran out of time. -/
def delays : List String := ["timeout", "script timeout"]

/-- The errors after which a session is of no use. -/
def losses : List String := ["invalid session id", "session not created", "no such window"]

/-- The fault that an error stands for. -/
def faultOf (error detail : String) : Browser.Fault :=
  if absences.contains error then .notFound detail
  else if delays.contains error then .timedOut detail
  else .broken detail !(losses.contains error)

/-- The error that a value names, and its message, which is empty when there is none. -/
def namedError? (v : Value) : Option (String × String) :=
  match errorSchema.ofValue v with
  | .error _ => none
  | .ok (error, message, ()) => some (error, (message : Option String).getD "")

/-- The fault behind a reply that was refused with a value. -/
def refusal (status : Nat) (v : Value) : Browser.Fault :=
  match namedError? v with
  | none => .broken ("WebDriver returned " ++ statusText status) true
  | some (error, "") => faultOf error error
  | some (error, message) => faultOf error (error ++ ": " ++ message)

/-- The value in the body of a reply; a reply may leave it out. -/
def Reply.content? (r : Reply) : Option Value := do
  let text ← String.fromUTF8? r.body
  match replySchema.parse text with
  | .ok (v, ()) => some (v.getD .null)
  | .error _ => none

/-- Does the status say that the request was met? -/
def Reply.isSuccess (r : Reply) : Bool := 200 ≤ r.status && r.status < 300

/-- The value of a reply that came from an address. -/
def Reply.value (r : Reply) (address : String) : Except Browser.Fault Value :=
  match r.content? with
  | none =>
    .error (.broken ("invalid WebDriver response from " ++ address
      ++ ": error decoding response body") true)
  | some v => if r.isSuccess then .ok v else .error (refusal r.status v)

end WebDriver
end Walkthrough
