import FaultDrill.Text.Reader

/-!
Whole numbers given by hand: decimal digits, zeros in front allowed, and a plus
sign allowed in front of them. What is wrong first, from left to right, is
reported.
-/

namespace FaultDrill.Text

inductive UnsignedError where
  | empty
  | invalidDigit
  | tooLarge
  deriving DecidableEq

def UnsignedError.message : UnsignedError → String
  | .empty => "cannot parse integer from empty string"
  | .invalidDigit => "invalid digit found in string"
  | .tooLarge => "number too large to fit in target type"

/-- Reads digits behind a value that is known, up to a limit that is excluded. -/
def readUnsigned (limit value : Nat) : List Char → Except UnsignedError Nat
  | [] => .ok value
  | char :: rest =>
      match digitValue? char with
      | none => .error .invalidDigit
      | some digit =>
          if value * 10 + digit < limit then readUnsigned limit (value * 10 + digit) rest
          else .error .tooLarge

/-- The number a text stands for, if it is less than the limit. -/
def unsigned (limit : Nat) (text : String) : Except UnsignedError Nat :=
  match text.toList with
  | [] => .error .empty
  | ['+'] => .error .invalidDigit
  | '+' :: digits => readUnsigned limit 0 digits
  | digits => readUnsigned limit 0 digits

def unsigned64 (text : String) : Except UnsignedError UInt64 :=
  (unsigned UInt64.size text).map UInt64.ofNat

example : (unsigned 256 "+007").toOption = some 7 := by decide
example : (unsigned 256 "256").toOption = none := by decide

end FaultDrill.Text
