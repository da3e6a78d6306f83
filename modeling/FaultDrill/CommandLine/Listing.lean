import FaultDrill.Scenario.Basic

/-!
The table of scenarios in the order in which they run.
-/

namespace FaultDrill.CommandLine

def padLeft (width : Nat) (text : String) : String := "".pushn ' ' (width - text.length) ++ text

def padRight (width : Nat) (text : String) : String := text.pushn ' ' (width - text.length)

/-- The line of a scenario at a position, counted from one. -/
def listingLine (position : Nat) (scenario : Scenario) : String :=
  let fault := (scenario.fault.map Fault.label).getD "none"
  padLeft 2 position.repr ++ ". " ++ padRight 24 scenario.name ++ " " ++
    padLeft 4 scenario.seconds.toNat.repr ++ "s @ " ++
    padRight 6 (Layout.prose.render scenario.rate) ++ " rps  fault: " ++ fault ++ "\n"

def listing (scenarios : List Scenario) : String :=
  String.join (scenarios.mapIdx fun index scenario => listingLine (index + 1) scenario)

end FaultDrill.CommandLine
