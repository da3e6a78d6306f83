import FaultDrill.Scenario.Basic

/-!
A drill runs its scenarios one after another, and a report names each row after
its scenario. So every scenario of a sequence has to be runnable and no name may
come twice. The first scenario that breaks this is reported.
-/

namespace FaultDrill.Scenario

/-- Checks the scenarios from left to right against the names already seen. -/
def checkAfter (seen : List String) : List Scenario → Except ScenarioError Unit
  | [] => .ok ()
  | scenario :: rest => do
      scenario.check
      if scenario.name ∈ seen then throw (.duplicateName scenario.name)
      checkAfter (scenario.name :: seen) rest

def checkSequence (scenarios : List Scenario) : Except ScenarioError Unit :=
  checkAfter [] scenarios

example : (checkSequence []).toOption = some () := rfl

end FaultDrill.Scenario
