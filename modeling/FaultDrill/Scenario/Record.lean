import FaultDrill.Fault.Record
import FaultDrill.Scenario.Basic

/-!
Scenarios in data.
-/

namespace FaultDrill.Scenario

def toValue (scenario : Scenario) : Value :=
  .ofFields (
    [("name", .text scenario.name), ("duration", .natural scenario.seconds),
      ("target_rate", .float scenario.rate)] ++
    match scenario.fault with
    | some fault => [("fault", fault.toValue)]
    | none => [])

def ofSource? {data : Type} [Source data] (source : data) : Option Scenario := do
  let members ← Source.members? ["name", "duration", "target_rate", "fault"] source
  let name ← Source.required Source.text? "name" members
  let seconds ← Source.required Source.natural? "duration" members
  let rate ← Source.required Source.float? "target_rate" members
  let fault ← Source.nullable Fault.ofSource? "fault" members
  some ⟨name, seconds, rate, fault⟩

end FaultDrill.Scenario
