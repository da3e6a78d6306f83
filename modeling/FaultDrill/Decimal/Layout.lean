import FaultDrill.Decimal.Shortest
import FaultDrill.Text.Reader

/-!
How a number is set down once its digits are known. Everything a text format
decides about its numbers is one `Layout` value; `Layout.render` does the rest.
-/

namespace FaultDrill

/-- The decisions a format makes about its numbers. -/
structure Layout where
  /-- Which of two equally near shortest decimals is chosen. -/
  tie : Tie
  /-- Whether a number whose leading digit has this power of ten is written
  without an exponent. -/
  positional : Int → Bool
  /-- Whether a whole number written without an exponent ends in `.0`. -/
  pointZero : Bool
  /-- Whether an exponent that is not negative has a plus sign. -/
  plusSign : Bool
  /-- The least number of digits of an exponent. -/
  exponentWidth : Nat
  notANumber : String
  infinity : String

namespace Layout

/-- Digits with the point `place` digits after their start, zeros filling the gap. -/
def withPoint (pointZero : Bool) (digits : List Char) (place : Int) : List Char :=
  if place ≤ 0 then
    '0' :: '.' :: (List.replicate place.natAbs '0' ++ digits)
  else if place.toNat < digits.length then
    digits.take place.toNat ++ '.' :: digits.drop place.toNat
  else
    digits ++ List.replicate (place.toNat - digits.length) '0' ++
      (if pointZero then ['.', '0'] else [])

example : withPoint true ['1', '2'] 2 = ['1', '2', '.', '0'] := rfl
example : withPoint true ['1', '2'] (-1) = ['0', '.', '0', '1', '2'] := rfl

/-- One digit, the point, the other digits and the power of ten. -/
def withExponent (layout : Layout) (digits : List Char) (power : Int) : List Char :=
  let mantissa :=
    match digits with
    | [] => []
    | [digit] => [digit]
    | digit :: rest => digit :: '.' :: rest
  let sign := if power < 0 then ['-'] else if layout.plusSign then ['+'] else []
  mantissa ++ 'e' :: sign ++ (Text.padded layout.exponentWidth power.natAbs).toList

/-- The digits of a decimal in the given layout. -/
def renderDecimal (layout : Layout) (decimal : Decimal) : List Char :=
  let digits := decimal.digits.repr.toList
  let place := decimal.exponent + digits.length
  if layout.positional (place - 1) then withPoint layout.pointZero digits place
  else layout.withExponent digits (place - 1)

/-- The shortest text that identifies a number. -/
def render (layout : Layout) (value : Float) : String :=
  let bits := value.toBits
  let magnitude := Float.ofBits (bits &&& 0x7FFFFFFFFFFFFFFF)
  let sign := if bits >>> 63 = 1 then "-" else ""
  if value.isNaN then layout.notANumber
  else if value.isInf then sign ++ layout.infinity
  else if magnitude.toBits = 0 then
    sign ++ String.ofList (layout.renderDecimal ⟨0, 0⟩)
  else sign ++ String.ofList (layout.renderDecimal (Decimal.shortest layout.tie magnitude))

end Layout

/-- Numbers in messages and listings are written positionally whatever their
size, and whole numbers have no point. -/
def Layout.prose : Layout where
  tie := .up
  positional := fun _ => true
  pointZero := false
  plusSign := false
  exponentWidth := 1
  notANumber := "NaN"
  infinity := "inf"

/-- Numbers in YAML keep a point or an exponent, so that they stay distinct from
counts; the exponent appears below `1e-5` and from `1e16` on. -/
def Layout.yaml : Layout where
  tie := .toEven
  positional := fun power => -5 ≤ power && power < 16
  pointZero := true
  plusSign := false
  exponentWidth := 1
  notANumber := ".nan"
  infinity := ".inf"

/-- Numbers in JSON are written like those in YAML, except that an exponent has a
sign and at least two digits, and that only finite numbers have a spelling. -/
def Layout.json : Layout where
  tie := .toEven
  positional := fun power => -5 ≤ power && power < 16
  pointZero := true
  plusSign := true
  exponentWidth := 2
  notANumber := "null"
  infinity := "null"

end FaultDrill
