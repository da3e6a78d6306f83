import FaultDrill.Decimal.Places

/-!
Lengths of time in whole nanoseconds. The seconds fill a 64-bit word, so the
longest duration is a little under 585 thousand million years.
-/

namespace FaultDrill

structure Duration where
  seconds : UInt64
  nanoseconds : Fin 1000000000
  deriving Repr, DecidableEq, Inhabited

namespace Duration

def ofSeconds (seconds : UInt64) : Duration := ⟨seconds, 0⟩

def microsecond : Duration := ⟨0, 1000⟩

/-- The length in nanoseconds. -/
def toNat (duration : Duration) : Nat :=
  duration.seconds.toNat * 1000000000 + duration.nanoseconds

/-- The duration of a count of nanoseconds, if its seconds fit. -/
def ofNat? (nanoseconds : Nat) : Option Duration :=
  if nanoseconds / 1000000000 < UInt64.size then
    some ⟨UInt64.ofNat (nanoseconds / 1000000000), Fin.ofNat 1000000000 nanoseconds⟩
  else none

def ofMilliseconds (milliseconds : UInt64) : Duration :=
  ⟨milliseconds / 1000, Fin.ofNat 1000000000 ((milliseconds % 1000).toNat * 1000000)⟩

example : (ofMilliseconds 1500).toNat = 1500000000 := by decide

def isZero (duration : Duration) : Bool :=
  duration.toNat == 0

/-- The longer of two durations. -/
def longer (left right : Duration) : Duration :=
  if left.toNat < right.toNat then right else left

/-- The shorter of two durations. -/
def shorter (left right : Duration) : Duration :=
  if left.toNat ≤ right.toNat then left else right

/-- The duration nearest to a number of seconds, a half going to the even
nanosecond. The number has to be neither negative nor too large. -/
def ofSecondsFloat? (seconds : Float) : Option Duration :=
  if seconds.isNaN || seconds < 0 then none
  else
    let (numerator, denominator) := (Binary.ofFloat seconds).overPowerOfTen (-9)
    ofNat? (Decimal.roundToEven numerator denominator)

end Duration

end FaultDrill
