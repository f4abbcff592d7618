/-!
# Walkthrough.Browser.Fault

How a browser refuses a call.
-/

namespace Walkthrough
namespace Browser

inductive Fault where
  | notFound (what : String)
  /-- The browser itself ran out of time. -/
  | timedOut (what : String)
  /-- Anything else; `transient` says that the session is still usable and the same call may
  succeed another time. -/
  | broken (message : String) (transient : Bool)
deriving DecidableEq, Repr

def Fault.message : Fault → String
  | .notFound what => "no element matches " ++ what
  | .timedOut what => "driver timed out: " ++ what
  | .broken message _ => message

end Browser
end Walkthrough
