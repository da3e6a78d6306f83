import FaultDrill.Decimal.Layout
import FaultDrill.Duration
import FaultDrill.Fault.Basic
import FaultDrill.Text.Blank

/-!
A scenario is one named load window of set length and offered rate, run with at
most one fault armed. This module holds the scenario, its pacing and the checks
that make it runnable.
-/

namespace FaultDrill

structure Scenario where
  name : String
  /-- Length of the load window in seconds. -/
  seconds : UInt64
  /-- Offered load in requests a second. -/
  rate : Float
  fault : Option Fault
  deriving Repr

/-- A load window may last a day. -/
def Scenario.longestSeconds : UInt64 := 86400

/-- The time between two submissions at a rate, at least a microsecond. There is
none if the rate is not a positive number, or so low that the time does not fit. -/
def pacing (rate : Float) : Option Duration :=
  if rate.isNaN || rate.isInf || rate ≤ 0 then none
  else (Duration.ofSecondsFloat? (1.0 / rate)).map (Duration.longer · .microsecond)

/-- Why a scenario, or a sequence of them, cannot be run. -/
inductive ScenarioError where
  | emptyName
  | zeroDuration (name : String)
  | durationTooLong (name : String) (seconds longest : UInt64)
  | invalidRate (name : String) (rate : Float)
  | invalidFault (name : String) (weakness : Fault.Weakness)
  | duplicateName (name : String)
  deriving Repr

def ScenarioError.message : ScenarioError → String
  | .emptyName => "Scenario name cannot be empty"
  | .zeroDuration name => s!"Scenario '{name}' must run for at least one second"
  | .durationTooLong name seconds longest =>
      s!"Scenario '{name}' must run for at most {longest} seconds, got {seconds}"
  | .invalidRate name rate =>
      let written := Layout.prose.render rate
      s!"Scenario '{name}' has invalid target rate {written}; expected a finite value greater than 0 whose pacing interval fits in a duration"
  | .invalidFault name weakness =>
      let reason := weakness.message
      s!"Scenario '{name}' has an invalid fault: {reason}"
  | .duplicateName name => s!"Duplicate scenario name: {name}"

namespace Scenario

def duration (scenario : Scenario) : Duration := .ofSeconds scenario.seconds

def pacing (scenario : Scenario) : Option Duration := FaultDrill.pacing scenario.rate

/-- A scenario can be run if it has a name, lasts between a second and a day,
has a pacing, and its fault has an effect. The first check that fails is
reported. -/
def check (scenario : Scenario) : Except ScenarioError Unit := do
  if Text.allBlank scenario.name then throw .emptyName
  if scenario.seconds = 0 then throw (.zeroDuration scenario.name)
  if longestSeconds < scenario.seconds then
    throw (.durationTooLong scenario.name scenario.seconds longestSeconds)
  if scenario.pacing.isNone then throw (.invalidRate scenario.name scenario.rate)
  match scenario.fault with
  | none => pure ()
  | some fault =>
      match fault.check with
      | .ok _ => pure ()
      | .error weakness => throw (.invalidFault scenario.name weakness)

/-- The scenarios of a drill nobody configured: an undisturbed baseline, then the
dependency slow, down and starved of bandwidth. -/
def standard : List Scenario :=
  [⟨"Baseline", 10, 20, none⟩,
   ⟨"Dependency Latency", 15, 20, some (.latency 2000 100)⟩,
   ⟨"Dependency Down", 10, 20, some .disable⟩,
   ⟨"Bandwidth Limited", 10, 20, some (.bandwidth 1)⟩]

end Scenario

end FaultDrill
