import FaultDrill.Http.Header
import FaultDrill.Url.Basic

/-!
Requests, what comes back for them, and the network in between. A network is
known by what it answers; it may go by everything it was sent before.
-/

namespace FaultDrill.Http

inductive Method where
  | get
  | post
  | delete
  deriving Repr, DecidableEq

def Method.name : Method → String
  | .get => "GET"
  | .post => "POST"
  | .delete => "DELETE"

structure Request where
  method : Method
  url : Url
  headers : Headers
  body : Option String
  deriving DecidableEq

namespace Request

def contentType (request : Request) : Option String := request.headers.lookup "content-type"

end Request

structure Response where
  status : UInt16
  /-- Where the answer is to be found instead. -/
  location : Option String
  /-- Absent if the connection ended before the body did. -/
  body : Option (List UInt8)
  /-- How many nanoseconds the body takes to come, behind the rest. -/
  bodyTime : Nat := 0
  deriving DecidableEq

/-- What comes back for a request. Times are nanoseconds from the request until
something is known of what comes back; the body of a response may still be under way. -/
inductive Answer where
  /-- No connection came about, so that the request reached nobody. -/
  | refused (time : Nat)
  /-- The connection was closed without a response. -/
  | closed (time : Nat)
  /-- Nothing ever comes back. -/
  | silence
  | response (time : Nat) (response : Response)
  deriving DecidableEq

namespace Answer

/-- Whether the request reached a server. -/
def reached : Answer → Bool
  | .refused _ => false
  | _ => true

end Answer

/-- Requests that reached a server, the latest first. -/
abbrev Traffic := List Request

/-- What is answered to a request behind the traffic so far. -/
abbrev Network := Traffic → Request → Answer

/-- The network nothing on which can be connected to. It takes some time to find
that out. -/
def Network.unreachable (time : Nat) : Network := fun _ _ => .refused time

/-- Sends one request. -/
def exchange (network : Network) (request : Request) : StateM Traffic Answer := do
  let traffic ← get
  let answer := network traffic request
  if answer.reached then set (request :: traffic)
  return answer

end FaultDrill.Http
