import FaultDrill.Decimal.Basic
import FaultDrill.Text.Reader
import FaultDrill.Value.Basic

/-!
Numbers in data. A number without point and exponent that fits a 64-bit word is
a whole number; every other one is the nearest binary64 number. One that is
beyond the greatest of those cannot be used.
-/

namespace FaultDrill.Json

/-- The parts of a number as written. -/
structure NumberText where
  isNegative : Bool
  whole : List Char
  fraction : List Char
  /-- The sign and the digits behind the letter `e`. -/
  power : Option (Bool × List Char)
  deriving Repr

namespace NumberText

def decimal (number : NumberText) : Decimal :=
  let power : Int :=
    match number.power with
    | none => 0
    | some (isNegative, digits) =>
        let value : Int := Text.decimalValue digits
        if isNegative then -value else value
  ⟨Text.decimalValue (number.whole ++ number.fraction), power - number.fraction.length⟩

def toFloatValue (number : NumberText) : Value :=
  let magnitude := number.decimal.toFloat
  if magnitude.isInf then .unusable
  else .float (if number.isNegative then -magnitude else magnitude)

def toValue (number : NumberText) : Value :=
  match number.fraction, number.power with
  | [], none =>
      let magnitude := Text.decimalValue number.whole
      if number.isNegative then
        if 0 < magnitude && magnitude ≤ Nat.pow 2 63 then .negative (-(magnitude : Int))
        else number.toFloatValue
      else if magnitude < UInt64.size then .natural (UInt64.ofNat magnitude)
      else number.toFloatValue
  | _, _ => number.toFloatValue

end NumberText

/-- One or more digits at the start. -/
def readDigits (text : List Char) : Option (List Char × List Char) :=
  match Text.takeDigits text.length text with
  | ([], _) => none
  | found => some found

/-- The digits before the point: a zero alone, or digits that do not start with
one. -/
def readWhole : List Char → Option (List Char × List Char)
  | '0' :: rest => some (['0'], rest)
  | text => readDigits text

def readFraction : List Char → Option (List Char × List Char)
  | '.' :: rest => readDigits rest
  | text => some ([], text)

def readSignedDigits : List Char → Option ((Bool × List Char) × List Char)
  | '-' :: rest => (readDigits rest).map fun (digits, rest) => ((true, digits), rest)
  | '+' :: rest => (readDigits rest).map fun (digits, rest) => ((false, digits), rest)
  | text => (readDigits text).map fun (digits, rest) => ((false, digits), rest)

def readPower : List Char → Option (Option (Bool × List Char) × List Char)
  | 'e' :: rest => (readSignedDigits rest).map fun (power, rest) => (some power, rest)
  | 'E' :: rest => (readSignedDigits rest).map fun (power, rest) => (some power, rest)
  | text => some (none, text)

def readNumber (text : List Char) : Option (NumberText × List Char) := do
  let (isNegative, rest) := match text with
    | '-' :: rest => (true, rest)
    | _ => (false, text)
  let (whole, rest) ← readWhole rest
  let (fraction, rest) ← readFraction rest
  let (power, rest) ← readPower rest
  some (⟨isNegative, whole, fraction, power⟩, rest)

end FaultDrill.Json
