/-!
The failure modes a drill puts on the route to a dependency. A fault is either a
toxic, which the control plane adds to the route, or a switch of the route
itself.
-/

namespace FaultDrill

/-- One failure mode for one scenario. Latencies are in milliseconds, the
bandwidth is in kilobytes a second. -/
inductive Fault where
  /-- Every chunk of data on the route is delayed. -/
  | latency (delay jitter : UInt64)
  /-- The route is throttled. -/
  | bandwidth (rate : UInt64)
  /-- The route is taken down. -/
  | disable
  deriving Repr, DecidableEq

/-- A disturbance the control plane knows by its kind and its numbers. -/
inductive Toxic where
  | latency (delay jitter : UInt64)
  | bandwidth (rate : UInt64)
  deriving Repr, DecidableEq

namespace Toxic

def kind : Toxic → String
  | .latency _ _ => "latency"
  | .bandwidth _ => "bandwidth"

/-- The numbers of a toxic under the names the control plane gives them. -/
def attributes : Toxic → List (String × UInt64)
  | .latency delay jitter => [("jitter", jitter), ("latency", delay)]
  | .bandwidth rate => [("rate", rate)]

end Toxic

namespace Fault

/-- The toxic that realises a fault; taking the route down needs none. -/
def toxic? : Fault → Option Toxic
  | .latency delay jitter => some (.latency delay jitter)
  | .bandwidth rate => some (.bandwidth rate)
  | .disable => none

def label : Fault → String
  | .latency delay jitter => s!"latency {delay}ms ±{jitter}ms"
  | .bandwidth rate => s!"bandwidth {rate}KB/s"
  | .disable => "route disabled"

/-- Why a fault would have no effect. -/
inductive Weakness where
  | noLatency
  | noBandwidth
  deriving Repr, DecidableEq

def Weakness.message : Weakness → String
  | .noLatency => "latency_ms must be greater than 0"
  | .noBandwidth => "rate_kbps must be greater than 0"

/-- The fault as it stands, or what is wrong with it. -/
def check : Fault → Except Weakness Unit
  | .latency delay _ => if delay = 0 then .error .noLatency else .ok ()
  | .bandwidth rate => if rate = 0 then .error .noBandwidth else .ok ()
  | .disable => .ok ()

end Fault

end FaultDrill
