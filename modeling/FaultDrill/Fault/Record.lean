import FaultDrill.Fault.Basic
import FaultDrill.Value.Members

/-!
Faults in data. A fault is a structure that names its kind, and the kind decides
which other members it has. The kind may stand anywhere in a record and comes
first in a list.
-/

namespace FaultDrill.Fault

def toValue : Fault → Value
  | .latency delay jitter =>
      .ofFields [("kind", .text "latency"), ("latency_ms", .natural delay),
        ("jitter_ms", .natural jitter)]
  | .bandwidth rate => .ofFields [("kind", .text "bandwidth"), ("rate_kbps", .natural rate)]
  | .disable => .ofFields [("kind", .text "disable")]

/-- The fault of a kind from its other members. Taking the route down has none,
and passes over those of a record. -/
def ofKind? (kind : String) (rest : Value) : Option Fault :=
  match kind with
  | "latency" => do
      let members ← rest.members? ["latency_ms", "jitter_ms"]
      let delay ← Source.required Value.natural? "latency_ms" members
      let jitter ← Source.optional Value.natural? 0 "jitter_ms" members
      some (.latency delay jitter)
  | "bandwidth" => do
      let members ← rest.members? ["rate_kbps"]
      let rate ← Source.required Value.natural? "rate_kbps" members
      some (.bandwidth rate)
  | "disable" =>
      match rest with
      | .record _ => some .disable
      | .list [] => some .disable
      | _ => none
  | _ => none

def ofSource? {data : Type} [Source data] (source : data) : Option Fault := do
  let (kind, rest) ← Source.variant? "kind" source
  ofKind? kind rest

end FaultDrill.Fault
