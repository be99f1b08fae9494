import IdlBuild.Http.Status
import IdlBuild.SystemFault

/-!
# Faults of a request

Why a request to a service brought no usable response. The address shown is the normalised one that
was asked, which after redirects need not be the configured one.
-/

namespace IdlBuild.Http

/-- Why a request failed. -/
inductive Fault where
  /-- The address is not one that a request can be sent to; it may not even be an address. -/
  | address (url : Option String) (detail : String)
  /-- No response came: no connection, a closed one, or no answer in time. -/
  | sending (url : String) (causes : List String)
  /-- There were more redirects than are followed. -/
  | redirects (url : String)
  /-- The final response has an error status. -/
  | status (code : Nat) (url : String)
  /-- The body ended before its announced length. -/
  | body
deriving DecidableEq, Repr

namespace Fault

/-- How a fault is shown. -/
def message : Fault → String
  | address none _ => "builder error"
  | address (some url) _ => s!"builder error for url ({url})"
  | sending url _ => s!"error sending request for url ({url})"
  | redirects url => s!"error following redirect for url ({url})"
  | status code url =>
    let side := if isClientError code then "client" else "server"
    s!"HTTP status {side} error ({statusLine code}) for url ({url})"
  | body => "error decoding response body"

/-- The causes below the fault's own message, outermost first. -/
def causes : Fault → List String
  | address _ detail => [detail]
  | sending _ causes => causes
  | redirects _ => ["too many redirects"]
  | status .. => []
  | body => ["request or response body error", "end of file before message length reached"]

/-- The status that caused the fault, if one did. -/
def status? : Fault → Option Nat
  | status code _ => some code
  | _ => none

end Fault

end IdlBuild.Http
