import FaultDrill.LoadStats

/-!
What the workers of a load window have reported so far. Submissions are only
counted; every outcome is kept once, and all statistics come from those kept.
-/

namespace FaultDrill

structure Accumulator where
  submitted : Nat := 0
  /-- The outcomes on record, the latest first. -/
  latest : List Outcome := []

namespace Accumulator

def submit (accumulator : Accumulator) : Accumulator :=
  { accumulator with submitted := accumulator.submitted + 1 }

def record (accumulator : Accumulator) (outcome : Outcome) : Accumulator :=
  { accumulator with latest := outcome :: accumulator.latest }

/-- The outcomes in the order of their records. -/
def outcomes (accumulator : Accumulator) : List Outcome := accumulator.latest.reverse

def recorded (accumulator : Accumulator) : Nat := accumulator.latest.length

def snapshot (accumulator : Accumulator) : LoadStats :=
  .ofOutcomes accumulator.submitted accumulator.outcomes

theorem outcomes_record (accumulator : Accumulator) (outcome : Outcome) :
    (accumulator.record outcome).outcomes = accumulator.outcomes ++ [outcome] := by
  simp [record, outcomes]

theorem recorded_eq (accumulator : Accumulator) :
    accumulator.recorded = accumulator.outcomes.length := by
  simp [recorded, outcomes]

end Accumulator

end FaultDrill
