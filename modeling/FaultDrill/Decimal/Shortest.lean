import FaultDrill.Decimal.Basic

/-!
The fewest digits that identify a binary64 number. A decimal identifies the
number when reading it back gives the same bits, so the search asks the reader:
it tries the grids of one digit, two digits and so on, and on each grid only the
two neighbours of the number. If one of them reads back, no coarser grid had a
decimal that did.
-/

namespace FaultDrill

/-- Which of two equally near decimals is written. -/
inductive Tie
  | toEven
  | up
  deriving Repr, DecidableEq

namespace Decimal

/-- Reading the decimal gives exactly this number. -/
def readsBackAs (decimal : Decimal) (value : Float) : Bool :=
  decimal.toFloat.toBits == value.toBits

/-- The multiple of `10 ^ power` that identifies a positive number, if one of its
two neighbours on that grid does. The nearer one is preferred. -/
def onGrid (tie : Tie) (value : Float) (power : Int) : Option Decimal :=
  let (numerator, denominator) := (Binary.ofFloat value).overPowerOfTen power
  let lower := numerator / denominator
  let below : Decimal := ⟨lower, power⟩
  let above : Decimal := ⟨lower + 1, power⟩
  let preferAbove :=
    match compare (2 * (numerator % denominator)) denominator, tie with
    | .lt, _ => false
    | .gt, _ => true
    | .eq, .up => true
    | .eq, .toEven => lower % 2 == 1
  match below.readsBackAs value, above.readsBackAs value with
  | true, true => some (if preferAbove then above else below)
  | true, false => some below
  | false, true => some above
  | false, false => none

/-- The shortest decimal that identifies a positive finite number. Seventeen
digits always suffice; should none be found, the exact value is written. -/
def shortest (tie : Tie) (value : Float) : Decimal :=
  let place := (Binary.ofFloat value).decimalPlace
  let found := (List.range 17).findSome? fun count => onGrid tie value (place - (count + 1 : Nat))
  (found.getD (Binary.ofFloat value).toDecimal).stripZeros 17

end Decimal

end FaultDrill
