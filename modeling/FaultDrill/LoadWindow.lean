import FaultDrill.Accumulator
import FaultDrill.Scenario.Basic
import FaultDrill.WorkerPool

/-!
One load window: requests are submitted at an even pace until the window ends or
is cancelled, then those still under way are waited for and all are counted.
Times are in nanoseconds from the opening of the window.
-/

namespace FaultDrill

structure LoadWindow where
  length : Duration
  /-- The time between two requests. -/
  pacing : Duration

namespace LoadWindow

/-- The last second a clock can show. -/
def lastSecond : Nat := Nat.pow 2 63 - 1

/-- The window of a length at a rate. There is none if the rate has no pacing, or
if the end of the window is beyond what a clock that shows `now` can show. -/
def ofRate? (now : Nat) (length : Duration) (rate : Float) : Option LoadWindow :=
  match FaultDrill.pacing rate with
  | none => none
  | some pacing =>
      if lastSecond < now + length.seconds.toNat then none else some { length, pacing }

/-! Submissions -/

/-- The time between two ticks. No tick beyond the end counts, so that it need
not be longer than the window; it is never zero. -/
def period (window : LoadWindow) : Nat := min window.pacing.toNat (max window.length.toNat 1000)

/-- The times of ticks before a limit, each a whole number of periods after the
opening and then as late as told. One more tick than there are periods is tried. -/
def ticks (limit period : Nat) (lateness : Nat → Nat) : List Nat :=
  let times := (List.range (limit / period + 1)).map fun number =>
    number * period + lateness number
  times.takeWhile (· < limit)

/-- The time at which no further request is submitted. -/
def closing (window : LoadWindow) (cancelled : Option Nat) : Nat :=
  match cancelled with
  | none => window.length.toNat
  | some time => min window.length.toNat time

/-- The times at which requests are submitted. -/
def submissions (window : LoadWindow) (lateness : Nat → Nat) (cancelled : Option Nat) : List Nat :=
  ticks (window.closing cancelled) window.period lateness

/-- Five requests a second for a second and a bit: the sixth goes out at the full second. -/
example :
    let window : LoadWindow := ⟨.ofMilliseconds 1001, .ofMilliseconds 200⟩
    (window.submissions (fun _ => 0) none).length = 6 := by
  decide

/-! Requests -/

/-- What comes of a request: how long it keeps its worker, and its outcome,
unless the worker breaks down before there is one. -/
structure Fate where
  time : Nat
  outcome : Option Outcome

/-- Runs the requests submitted at some times, with the fates they meet. -/
def pool (concurrency : Nat) (requests : List (Nat × Fate)) : WorkerPool :=
  (WorkerPool.ofConcurrency concurrency).submitAll
    (requests.map fun (time, fate) => ⟨time, fate.time, fate.outcome.isNone⟩)

/-! Counting -/

/-- Something that workers report of a request, or that is reported of them. -/
inductive Event where
  | submitted
  /-- A worker is done with a request. It has no outcome if it broke down. -/
  | ended (outcome : Option Outcome)

/-- What happens in a window, in order of time. -/
def events (concurrency : Nat) (requests : List (Nat × Fate)) : List Event :=
  let submissions := requests.map fun (time, _) => (time, Event.submitted)
  let ends := ((pool concurrency requests).runs.zip requests).map fun (run, _, fate) =>
    (run.stop, Event.ended fate.outcome)
  ((submissions ++ ends).mergeSort fun left right => left.1 ≤ right.1).map Prod.snd

/-- What has been counted so far. -/
structure Tally where
  accumulator : Accumulator := {}
  /-- How many workers broke down, none of which has reported an outcome. -/
  broken : Nat := 0

namespace Tally

def count (tally : Tally) : Event → Tally
  | .submitted => { tally with accumulator := tally.accumulator.submit }
  | .ended (some outcome) => { tally with accumulator := tally.accumulator.record outcome }
  | .ended none => { tally with broken := tally.broken + 1 }

/-- Records a failure for every worker that broke down, so that nothing is missing. -/
def close (tally : Tally) : LoadStats :=
  ((List.replicate tally.broken Outcome.transportFailure).foldl Accumulator.record
    tally.accumulator).snapshot

end Tally

/-- The statistics of a window in which some events happen one after another. -/
def tally (events : List Event) : LoadStats := (events.foldl Tally.count {}).close

def stats (concurrency : Nat) (requests : List (Nat × Fate)) : LoadStats :=
  tally (events concurrency requests)

end LoadWindow

end FaultDrill
