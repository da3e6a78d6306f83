import FaultDrill.Decimal.Basic
import FaultDrill.Json.Number
import FaultDrill.Text.Reader
import FaultDrill.Value.Basic

/-!
What plain scalars stand for: nothing, truth values, whole numbers in four bases,
and other numbers. Whatever has none of these spellings is a text.
-/

namespace FaultDrill.Yaml.Plain

def isNull (text : String) : Bool := text ∈ ["null", "Null", "NULL", "~"]

def truth? (text : String) : Option Bool :=
  if text ∈ ["true", "True", "TRUE"] then some true
  else if text ∈ ["false", "False", "FALSE"] then some false
  else none

/-! Whole numbers -/

/-- The value of a digit in a base up to sixteen. -/
def digitIn? (base : Nat) (char : Char) : Option Nat :=
  (Text.hexValue? char).filter (· < base)

/-- One or more digits of a base. -/
def digits? (base : Nat) : List Char → Option Nat
  | [] => none
  | digits => (digits.mapM (digitIn? base)).map (Text.valueOf base)

/-- Decimal digits with a needless zero in front, whatever their sign, are not a
whole number. -/
def hasNeedlessZero (text : List Char) : Bool :=
  match text with
  | '+' :: '0' :: rest | '-' :: '0' :: rest | '0' :: rest =>
      !rest.isEmpty && rest.all Char.isDigit
  | _ => false

/-- Digits whose base is told by what stands before them. -/
def magnitude? (text : List Char) : Option Nat :=
  match text with
  | '0' :: 'x' :: digits => digits? 16 digits
  | '0' :: 'o' :: digits => digits? 8 digits
  | '0' :: 'b' :: digits => digits? 2 digits
  | digits => if hasNeedlessZero digits then none else digits? 10 digits

/-- A whole number with its sign. -/
def integer? (text : String) : Option Int :=
  match text.toList with
  | '-' :: digits => (magnitude? digits).map fun magnitude => -(magnitude : Int)
  | '+' :: digits => (magnitude? digits).map Int.ofNat
  | digits => (magnitude? digits).map Int.ofNat

example : integer? "0x1F" = some 31 := by decide
example : integer? "007" = none := by decide

/-- A whole number without a minus sign that fits a 64-bit word. -/
def natural? (text : String) : Option UInt64 :=
  if text.toList.head? = some '-' then none
  else
    match integer? text with
    | some (.ofNat value) => if value < UInt64.size then some (UInt64.ofNat value) else none
    | _ => none

/-! Other numbers -/

/-- Digits around a point, at least one, and the rest. -/
def readMantissa (text : List Char) : Option ((List Char × List Char) × List Char) :=
  let (whole, rest) := Text.takeDigits text.length text
  let (fraction, rest) := match rest with
    | '.' :: rest => Text.takeDigits rest.length rest
    | rest => ([], rest)
  if whole.isEmpty && fraction.isEmpty then none else some ((whole, fraction), rest)

/-- A finite number in decimal notation. -/
def decimal? (text : List Char) : Option Float := do
  let (isNegative, rest) := match text with
    | '-' :: rest => (true, rest)
    | '+' :: rest => (false, rest)
    | rest => (false, rest)
  let ((whole, fraction), rest) ← readMantissa rest
  let (power, rest) ← Json.readPower rest
  if rest.isEmpty then
    match (Json.NumberText.mk isNegative whole fraction power).toFloatValue with
    | .float value => some value
    | _ => none
  else none

def float? (text : String) : Option Float :=
  if text ∈ [".inf", ".Inf", ".INF", "+.inf", "+.Inf", "+.INF"] then some (1 / 0)
  else if text ∈ ["-.inf", "-.Inf", "-.INF"] then some (-1 / 0)
  else if text ∈ [".nan", ".NaN", ".NAN"] then some (0 / 0)
  else
    match text.toList with
    | '+' :: '+' :: _ | '+' :: '-' :: _ => none
    | chars => decimal? chars

/-! Anything -/

/-- A whole number as a value. One that needs more than 64 bits is unusable if it
fits 128. -/
def integerValue? (text : String) : Option Value := do
  let value ← integer? text
  let isSigned := text.toList.head? = some '-'
  if 0 ≤ value && value < UInt64.size && !isSigned then some (.natural (UInt64.ofNat value.toNat))
  else if value = 0 then some (.natural 0)
  else if -(Nat.pow 2 63 : Int) ≤ value && value < 0 then some (.negative value)
  else if -(Nat.pow 2 127 : Int) ≤ value && value < Nat.pow 2 128 then some .unusable
  else none

/-- The value of a plain scalar that nothing is known about. -/
def value (text : String) : Value :=
  if text.isEmpty || isNull text then .null
  else
    match truth? text, integerValue? text with
    | some truth, _ => .truth truth
    | none, some number => number
    | none, none =>
        if hasNeedlessZero text.toList then .text text
        else ((float? text).map Value.float).getD (.text text)

end FaultDrill.Yaml.Plain
