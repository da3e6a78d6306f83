/-!
Decimal numbers and the finite binary64 magnitudes they stand for. A `Decimal`
is a count of digits scaled by a power of ten; a `Binary` is a significand
scaled by a power of two. Both are exact, so comparing them needs natural
numbers only.
-/

namespace FaultDrill

/-- The number `digits * 10 ^ exponent`. -/
structure Decimal where
  digits : Nat
  exponent : Int
  deriving Repr, DecidableEq

/-- The number `significand * 2 ^ exponent`. -/
structure Binary where
  significand : Nat
  exponent : Int
  deriving Repr, DecidableEq

namespace Decimal

/-- The quotient rounded to the nearest natural number, a half to the even one. -/
def roundToEven (numerator denominator : Nat) : Nat :=
  let quotient := numerator / denominator
  match compare (2 * (numerator % denominator)) denominator with
  | .lt => quotient
  | .gt => quotient + 1
  | .eq => quotient + quotient % 2

example : (roundToEven 5 2, roundToEven 7 2, roundToEven 8 3) = (2, 4, 3) := by decide

/-- A decimal as a quotient. -/
def fraction (decimal : Decimal) : Nat × Nat :=
  (decimal.digits * Nat.pow 10 decimal.exponent.toNat, Nat.pow 10 (-decimal.exponent).toNat)

/-- The bits of the greatest binary64 number of all, infinity. -/
def infinityBits : Nat := 0x7FF0000000000000

/-- The bits of the binary64 number nearest to a quotient; of two equally near ones the
even. The quotient is counted in units of the least positive number, or of as great a
power of two times that as leaves 53 binary digits. Bits grow with numbers one by one,
so a carry out of the digits ends up in the exponent. -/
def nearestBits (numerator denominator : Nat) : Nat :=
  let units := numerator * Nat.pow 2 1074
  let shift := (units / denominator).log2 - 52
  min (shift * Nat.pow 2 52 + roundToEven units (denominator * Nat.pow 2 shift)) infinityBits

example : nearestBits 1 1 = 0x3FF0000000000000 := by decide +kernel

/-- The binary64 number nearest to a decimal. One far beyond the greatest or the least
number is settled without computing its power of ten. -/
def toFloat (decimal : Decimal) : Float :=
  if decimal.digits = 0 then Float.ofBits 0
  else if 400 < decimal.exponent then Float.ofBits (UInt64.ofNat infinityBits)
  else if decimal.exponent + decimal.digits.log2 < -400 then Float.ofBits 0
  else
    let (numerator, denominator) := decimal.fraction
    Float.ofBits (UInt64.ofNat (nearestBits numerator denominator))

/-- Moves trailing zeros of the digits into the exponent. At most `count` are
moved; a number of `n` digits has fewer than `n`. -/
def stripZeros (decimal : Decimal) : Nat → Decimal
  | 0 => decimal
  | count + 1 =>
      if decimal.digits ≠ 0 ∧ decimal.digits % 10 = 0 then
        stripZeros ⟨decimal.digits / 10, decimal.exponent + 1⟩ count
      else decimal

example : stripZeros ⟨12300, -2⟩ 5 = ⟨123, 0⟩ := by decide

end Decimal

namespace Binary

/-- The magnitude held by the bits of a finite binary64 number. Its sign bit is
ignored. -/
def ofBits (bits : UInt64) : Binary :=
  let field := ((bits >>> 52) &&& 0x7FF).toNat
  let fraction := (bits &&& 0xFFFFFFFFFFFFF).toNat
  if field = 0 then ⟨fraction, -1074⟩ else ⟨Nat.pow 2 52 + fraction, (field : Int) - 1075⟩

def ofFloat (value : Float) : Binary := ofBits value.toBits

/-- The exact quotient `value / 10 ^ power` as numerator and denominator. -/
def overPowerOfTen (value : Binary) (power : Int) : Nat × Nat :=
  (value.significand * Nat.pow 2 value.exponent.toNat * Nat.pow 10 (-power).toNat,
    Nat.pow 2 (-value.exponent).toNat * Nat.pow 10 power.toNat)

/-- The decimal with the same value, which always exists since every power of
two divides a power of ten. -/
def toDecimal (value : Binary) : Decimal :=
  if value.exponent < 0 then
    ⟨value.significand * Nat.pow 5 value.exponent.natAbs, value.exponent⟩
  else ⟨value.significand * Nat.pow 2 value.exponent.natAbs, 0⟩

/-- The least `power` with `value < 10 ^ power`: the place of the leading
digit. The binary logarithm gives a lower estimate that is at most a few short. -/
def decimalPlace (value : Binary) : Int :=
  let estimate := ((value.significand.log2 : Int) + value.exponent) * 30103 / 100000
  let fits (power : Int) : Bool :=
    let (numerator, denominator) := value.overPowerOfTen power
    numerator < denominator
  (([0, 1, 2].map fun step => estimate + (step : Int)).find? fits).getD (estimate + 3)

example : decimalPlace ⟨1, 0⟩ = 1 := by decide
example : decimalPlace ⟨999, 0⟩ = 3 := by decide
example : decimalPlace ⟨1, -10⟩ = -3 := by decide

end Binary

end FaultDrill
