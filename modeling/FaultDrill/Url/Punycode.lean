/-!
Names in all scripts are sent as letters, digits and hyphens. The code puts the
plain characters first, and behind the last hyphen says for every other
character, in ascending order, how far it is from the one before, as a number of
variable length whose digits have thresholds that adapt.
-/

namespace FaultDrill.Url.Punycode

/-- Letters count from zero, digits go on from 26. -/
def digitValue? (char : Char) : Option Nat :=
  if 'a' ≤ char && char ≤ 'z' then some (char.toNat - 'a'.toNat)
  else if 'A' ≤ char && char ≤ 'Z' then some (char.toNat - 'A'.toNat)
  else if char.isDigit then some (char.toNat - '0'.toNat + 26)
  else none

/-- The least digit that says that another one follows. -/
def threshold (position bias : Nat) : Nat := max 1 (min 26 (position - bias))

/-- Divides by 35 until the number is small, counting in steps of 36. -/
def shrink (delta count : Nat) : Nat × Nat :=
  if 455 < delta then shrink (delta / 35) (count + 36) else (delta, count)
termination_by delta
decreasing_by exact Nat.div_lt_self (by omega) (by omega)

/-- The bias after a number, which is larger the larger the number was. -/
def adapt (delta length : Nat) (isFirst : Bool) : Nat :=
  let scaled := if isFirst then delta / 700 else delta / 2
  let (delta, count) := shrink (scaled + scaled / length) 0
  count + 36 * delta / (delta + 38)

/-- A number of variable length and the rest. -/
def readNumber (bias : Nat) : Nat → Nat → Nat → List Char → Option (Nat × List Char)
  | _, _, _, [] => none
  | position, weight, value, char :: rest => do
      let digit ← digitValue? char
      let value := value + digit * weight
      let limit := threshold position bias
      if digit < limit then some (value, rest)
      else readNumber bias (position + 36) (weight * (36 - limit)) value rest

/-- What is decoded so far, and where the next character may go at the earliest. -/
structure Progress where
  decoded : List Char
  code : Nat
  place : Nat
  bias : Nat
  isFirst : Bool

/-- The progress after one more number. -/
def Progress.advance (progress : Progress) (delta : Nat) : Option Progress :=
  let length := progress.decoded.length + 1
  let position := progress.place + delta
  let code := progress.code + position / length
  let place := position % length
  if code.isValidChar then
    some
      { decoded := progress.decoded.take place ++ Char.ofNat code :: progress.decoded.drop place
        code := code
        place := place + 1
        bias := adapt delta length progress.isFirst
        isFirst := false }
  else none

/-- Puts all remaining characters in their places. Each number takes at least one
character of the text. -/
def insertAll : Nat → Progress → List Char → Option (List Char)
  | _, progress, [] => some progress.decoded
  | 0, _, _ => none
  | fuel + 1, progress, text => do
      let (delta, rest) ← readNumber progress.bias 36 1 0 text
      insertAll fuel (← progress.advance delta) rest

/-- The plain characters in front of the last hyphen, and the code behind it. -/
def splitPlain (text : List Char) : List Char × List Char :=
  let code := (text.reverse.takeWhile (· ≠ '-')).reverse
  let plain := text.take (text.length - code.length - 1)
  if plain.isEmpty then ([], text) else (plain, code)

/-- The name that a coded one stands for. -/
def decode? (text : List Char) : Option (List Char) :=
  let (plain, code) := splitPlain text
  insertAll (text.length + 1) ⟨plain, 0x80, 0, 72, true⟩ code

example : decode? "bcher-kva".toList = some "bücher".toList := by decide +kernel

end FaultDrill.Url.Punycode
