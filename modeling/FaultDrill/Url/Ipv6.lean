import FaultDrill.Text.Reader
import FaultDrill.Url.Ipv4

/-!
Hosts of 128 bits, written as eight groups of up to four hexadecimal digits. One
run of zero groups may be left out, and the last two groups may be written as a
dotted address of four decimal numbers.
-/

namespace FaultDrill.Url

def ipv6Group? (digits : List Char) : Option Nat :=
  if 1 ≤ digits.length && digits.length ≤ 4 then digitsBelow? 16 digits else none

/-- A decimal number up to 255 without needless zeros. -/
def dottedPart? (digits : List Char) : Option Nat :=
  match digits with
  | [] => none
  | '0' :: _ :: _ => none
  | digits => (digitsBelow? 10 digits).filter (· ≤ 255)

/-- The two groups a dotted address stands for. -/
def dottedGroups? (text : List Char) : Option (List Nat) := do
  match ← (Text.splitAt '.' text).mapM dottedPart? with
  | [first, second, third, fourth] => some [first * 256 + second, third * 256 + fourth]
  | _ => none

/-- Groups between colons, of which the last may be dotted. -/
def ipv6Groups? : List (List Char) → Option (List Nat)
  | [] => some []
  | [last] => if last.contains '.' then dottedGroups? last else (ipv6Group? last).map ([·])
  | group :: rest => do
      let group ← ipv6Group? group
      some (group :: (← ipv6Groups? rest))

/-- The text in front of the first double colon and behind it. -/
def splitGap : List Char → Option (List Char × List Char)
  | ':' :: ':' :: rest => some ([], rest)
  | char :: rest => (splitGap rest).map fun (before, behind) => (char :: before, behind)
  | [] => none

/-- The groups of one side of a gap, which may have none. -/
def sideGroups? (text : List Char) : Option (List Nat) :=
  if text.isEmpty then some [] else ipv6Groups? (Text.splitAt ':' text)

/-- The eight groups of an address. -/
def ipv6? (text : List Char) : Option (List Nat) :=
  match splitGap text with
  | none => (ipv6Groups? (Text.splitAt ':' text)).filter (·.length = 8)
  | some (before, behind) => do
      if before.contains '.' then none
      else
        let before ← sideGroups? before
        let behind ← sideGroups? behind
        let count := before.length + behind.length
        if count ≤ 7 then some (before ++ List.replicate (8 - count) 0 ++ behind) else none

example : ipv6? "::1".toList = some [0, 0, 0, 0, 0, 0, 0, 1] := by decide
example : ipv6? "1::2::3".toList = none := by decide
example : ipv6? "::1.2.3.4".toList = some [0, 0, 0, 0, 0, 0, 0x102, 0x304] := by decide

end FaultDrill.Url
