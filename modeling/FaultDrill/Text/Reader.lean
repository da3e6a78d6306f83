/-!
Small readers of a text from the left. Each returns what it read and the rest.
-/

namespace FaultDrill.Text

/-- The value of a decimal digit. -/
def digitValue? (char : Char) : Option Nat :=
  if char.isDigit then some (char.toNat - '0'.toNat) else none

/-- The value of a hexadecimal digit of either case. -/
def hexValue? (char : Char) : Option Nat :=
  if char.isDigit then some (char.toNat - '0'.toNat)
  else if 'a' ≤ char && char ≤ 'f' then some (char.toNat - 'a'.toNat + 10)
  else if 'A' ≤ char && char ≤ 'F' then some (char.toNat - 'A'.toNat + 10)
  else none

/-- The number that digits of a base stand for, the most significant first. -/
def valueOf (base : Nat) (digits : List Nat) : Nat :=
  digits.foldl (fun value digit => value * base + digit) 0

/-- The number written by decimal digits; other characters count as zero. -/
def decimalValue (digits : List Char) : Nat :=
  valueOf 10 (digits.map fun digit => (digitValue? digit).getD 0)

example : decimalValue ['0', '4', '2'] = 42 := by decide

/-- Up to `most` decimal digits at the start, and the rest. -/
def takeDigits : Nat → List Char → List Char × List Char
  | 0, text => ([], text)
  | most + 1, char :: rest =>
      if char.isDigit then
        let (digits, remaining) := takeDigits most rest
        (char :: digits, remaining)
      else ([], char :: rest)
  | _ + 1, [] => ([], [])

/-- The rest of a text after the given start. -/
def after? : List Char → List Char → Option (List Char)
  | [], text => some text
  | _ :: _, [] => none
  | expected :: more, char :: rest => if expected = char then after? more rest else none

/-- A number written with at least `width` digits, zeros in front. -/
def padded (width number : Nat) : String :=
  let digits := number.repr
  "".pushn '0' (width - digits.length) ++ digits

example : padded 2 7 = "07" := by decide

/-- The parts of a text between the occurrences of a separator. -/
def splitAt (separator : Char) : List Char → List (List Char)
  | [] => [[]]
  | char :: rest =>
      match splitAt separator rest with
      | [] => [[char]]
      | part :: parts => if char = separator then [] :: part :: parts else (char :: part) :: parts

example : splitAt ',' ['a', ',', ',', 'b'] = [['a'], [], ['b']] := by decide

end FaultDrill.Text
