import FaultDrill.Calendar.Instant
import FaultDrill.LoadStats
import FaultDrill.Scenario.Basic

/-!
The report of a run: one row for each scenario that was measured, in the order
they ran.
-/

namespace FaultDrill

/-- What the load window of one scenario observed. -/
structure ScenarioResult where
  scenario : Scenario
  successes : Nat
  errors : Nat
  fallbacks : Nat
  averageLatency : Float
  submitted : Nat
  latency : LatencySummary
  statusCounts : StatusCounts
  /-- Completed requests for each second of measured time. -/
  achievedRate : Float
  startedAt : Instant
  finishedAt : Instant
  deriving Repr

namespace ScenarioResult

/-- Completed requests a second, counting whole milliseconds; none if no
millisecond passed. -/
def rateOver (completed : Nat) (milliseconds : Int) : Float :=
  if milliseconds ≤ 0 then 0
  else countToFloat completed / (countToFloat milliseconds.toNat / 1000)

def ofStats (scenario : Scenario) (stats : LoadStats) (startedAt finishedAt : Instant) :
    ScenarioResult where
  scenario := scenario
  successes := stats.successes
  errors := stats.errors
  fallbacks := stats.fallbacks
  averageLatency := stats.latency.average
  submitted := stats.submitted
  latency := stats.latency
  statusCounts := stats.statusCounts
  achievedRate := rateOver stats.completed (finishedAt.millisecondsSince startedAt)
  startedAt := startedAt
  finishedAt := finishedAt

def completed (result : ScenarioResult) : Nat :=
  result.successes + result.errors + result.fallbacks

end ScenarioResult

structure Report where
  title : String
  generatedAt : Instant
  results : List ScenarioResult
  /-- The run was cancelled before every scenario had run to its end. -/
  interrupted : Bool
  deriving Repr

end FaultDrill
