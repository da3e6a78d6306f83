import FaultDrill.Decimal.Basic

/-!
Numbers with a set count of places after the point. The exact binary value is
rounded once, a half to the even neighbour.
-/

namespace FaultDrill.Decimal

/-- The digits of `units` with the last `places` of them behind a point. -/
def placeText (units places : Nat) : String :=
  let digits := units.repr.toList
  let padded := List.replicate (places + 1 - digits.length) '0' ++ digits
  String.ofList (padded.take (padded.length - places) ++ '.' :: padded.drop (padded.length - places))

example : placeText 7 2 = "0.07" := by decide

/-- A number with `places` digits after the point. The sign of a negative zero
is kept. -/
def withPlaces (places : Nat) (value : Float) : String :=
  let sign := if value.toBits >>> 63 = 1 then "-" else ""
  if value.isNaN then "NaN"
  else if value.isInf then sign ++ "inf"
  else
    let (numerator, denominator) := (Binary.ofFloat value).overPowerOfTen (-(places : Int))
    sign ++ placeText (roundToEven numerator denominator) places

end FaultDrill.Decimal
