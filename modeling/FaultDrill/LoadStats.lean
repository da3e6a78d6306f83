import FaultDrill.Latency
import FaultDrill.Outcome

/-!
The statistics of one load window: how many requests went out, how they ended,
how often each status came back, and how long the responses took.
-/

namespace FaultDrill

/-- How often each status occurred, by ascending status. A status that did not
occur is absent. -/
abbrev StatusCounts := List (UInt16 × Nat)

namespace StatusCounts

/-- Replaces the count of a status by what `change` makes of it; the count of an
absent status is zero. -/
def update (change : Nat → Nat) (status : UInt16) : StatusCounts → StatusCounts
  | [] => [(status, change 0)]
  | (first, count) :: rest =>
      if status < first then (status, change 0) :: (first, count) :: rest
      else if status = first then (first, change count) :: rest
      else (first, count) :: update change status rest

/-- Counts one more occurrence. -/
def record (status : UInt16) (counts : StatusCounts) : StatusCounts :=
  update (· + 1) status counts

/-- Sets the count of a status, whatever it was. -/
def set (status : UInt16) (count : Nat) (counts : StatusCounts) : StatusCounts :=
  update (fun _ => count) status counts

def count (status : UInt16) (counts : StatusCounts) : Nat :=
  (counts.lookup status).getD 0

end StatusCounts

structure LoadStats where
  /-- Requests handed to the workers. -/
  submitted : Nat
  successes : Nat
  errors : Nat
  fallbacks : Nat
  latency : LatencySummary
  statusCounts : StatusCounts
  deriving Repr

namespace LoadStats

/-- The requests that ended in an outcome. -/
def completed (stats : LoadStats) : Nat :=
  stats.successes + stats.errors + stats.fallbacks

/-- How many outcomes fall into a category. -/
def countCategory (category : Category) (outcomes : List Outcome) : Nat :=
  outcomes.countP fun outcome => outcome.category = category

/-- The statuses of the responses among the outcomes, counted. -/
def countStatuses (outcomes : List Outcome) : StatusCounts :=
  (outcomes.filterMap (·.status)).foldl (fun counts status => counts.record status) []

def ofOutcomes (submitted : Nat) (outcomes : List Outcome) : LoadStats where
  submitted := submitted
  successes := countCategory .success outcomes
  errors := countCategory .error outcomes
  fallbacks := countCategory .fallback outcomes
  latency := .ofSamples (outcomes.filterMap (·.latency))
  statusCounts := countStatuses outcomes

end LoadStats

end FaultDrill
