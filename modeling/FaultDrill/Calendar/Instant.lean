import FaultDrill.Calendar.Date

/-!
Points in universal time. A leap second is kept as the last second of its minute
with a thousand million nanoseconds or more.
-/

namespace FaultDrill

structure Instant where
  date : Date
  /-- Seconds since midnight. -/
  second : Nat
  /-- Nanoseconds since the start of the second; from a thousand million on they
  lie in the leap second that follows it. -/
  nanosecond : Nat
  deriving Repr, DecidableEq

namespace Instant

def inLeapSecond (instant : Instant) : Bool :=
  1000000000 ≤ instant.nanosecond

/-- The nanoseconds from one time of day to another. A leap second between the
two is counted, except where both lie in the same second. -/
def timeOfDaySince (later earlier : Instant) : Int :=
  let seconds := (later.second : Int) - earlier.second
  let adjusted :=
    if earlier.second < later.second then seconds + (if earlier.inLeapSecond then 1 else 0)
    else if later.second < earlier.second then seconds - (if later.inLeapSecond then 1 else 0)
    else seconds
  adjusted * 1000000000 + (later.nanosecond : Int) - earlier.nanosecond

/-- The nanoseconds from one instant to another. -/
def since (later earlier : Instant) : Int :=
  (later.date.number - earlier.date.number) * 86400000000000 + later.timeOfDaySince earlier

/-- The whole milliseconds from one instant to another, the rest dropped. -/
def millisecondsSince (later earlier : Instant) : Int :=
  Int.tdiv (later.since earlier) 1000000

/-- The instant in universal time of a local one that is ahead by some seconds,
less than a day. -/
def atOffset (localTime : Instant) (ahead : Int) : Instant :=
  let second := (localTime.second : Int) - ahead
  if second < 0 then
    { localTime with date := localTime.date.previous, second := (second + 86400).toNat }
  else if 86400 ≤ second then
    { localTime with date := localTime.date.next, second := (second - 86400).toNat }
  else { localTime with second := second.toNat }

/-- The instant some nanoseconds later, if no leap second comes in between. -/
def after (instant : Instant) (nanoseconds : Nat) : Instant :=
  let total := instant.second * 1000000000 + instant.nanosecond + nanoseconds
  let seconds := total / 1000000000
  { date := Nat.repeat Date.next (seconds / 86400) instant.date
    second := seconds % 86400
    nanosecond := total % 1000000000 }

/-- The first second of 1970, which clocks count from. -/
def epoch : Instant := ⟨⟨1970, 1, 1⟩, 0, 0⟩

example : after ⟨⟨2023, 12, 31⟩, 86399, 1⟩ 1000000000 = ⟨⟨2024, 1, 1⟩, 0, 1⟩ := by decide

end Instant

end FaultDrill
