/-!
What became of a single request. A response is judged by its status alone: 200
is a success, 503 is the degraded answer of a circuit breaker, all else is an
error. A request that got no response is an error without status or latency.
-/

namespace FaultDrill

inductive Category where
  | success
  | fallback
  | error
  deriving Repr, DecidableEq

namespace Category

def ofStatus (status : UInt16) : Category :=
  if status = 200 then .success
  else if status = 503 then .fallback
  else .error

def name : Category → String
  | .success => "success"
  | .fallback => "fallback"
  | .error => "error"

end Category

structure Outcome where
  category : Category
  status : Option UInt16
  /-- Milliseconds until the response was complete. -/
  latency : Option Float
  deriving Repr

namespace Outcome

def ofResponse (status : UInt16) (latency : Float) : Outcome :=
  ⟨.ofStatus status, some status, some latency⟩

def transportFailure : Outcome := ⟨.error, none, none⟩

def isTransportFailure (outcome : Outcome) : Bool := outcome.status.isNone

end Outcome

end FaultDrill
