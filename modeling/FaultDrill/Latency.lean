/-!
Latency over the requests of a load window. Samples are put into the total order
of binary64 numbers, in which negative zero comes before zero and a number that
is not one after all others, so the summary depends on the samples and not on
the order they arrived in.
-/

namespace FaultDrill

/-- Places a number in the total order. Positive numbers are ordered as their
bits, negative ones the other way round and below them. -/
def orderKey (value : Float) : Int :=
  let bits := value.toBits.toNat
  if bits < Nat.pow 2 63 then bits else (Nat.pow 2 63 : Int) - bits - 1

/-- The samples from the smallest to the greatest. -/
def sortSamples (samples : List Float) : List Float :=
  samples.mergeSort fun left right => orderKey left ≤ orderKey right

/-- The sum from left to right. The start is negative zero, the only number that
changes no sum. -/
def sumSamples (samples : List Float) : Float :=
  samples.foldl (· + ·) (-0.0)

/-- The number nearest to a count. -/
def countToFloat (count : Nat) : Float := Float.ofScientific count false 0

/-- The position in a sorted list of the smallest sample that has at least
`percent` of a hundred of all samples at or below it. -/
def nearestRank (percent count : Nat) : Nat :=
  max 1 (min count ((count * percent + 99) / 100)) - 1

example : nearestRank 50 2 = 0 ∧ nearestRank 95 2 = 1 ∧ nearestRank 95 100 = 94 := by decide

/-- The distribution of the latencies of a load window, in milliseconds. -/
structure LatencySummary where
  samples : Nat
  average : Float
  median : Float
  p95 : Float
  p99 : Float
  max : Float
  deriving Repr

namespace LatencySummary

/-- The summary of no samples. -/
def none : LatencySummary := ⟨0, 0, 0, 0, 0, 0⟩

def ofSamples (samples : List Float) : LatencySummary :=
  if samples.isEmpty then none
  else
    let sorted := sortSamples samples
    let count := sorted.length
    let percentile (percent : Nat) : Float := sorted.getD (nearestRank percent count) 0
    { samples := count
      average := sumSamples sorted / countToFloat count
      median := percentile 50
      p95 := percentile 95
      p99 := percentile 99
      max := sorted.getLastD 0 }

end LatencySummary

end FaultDrill
