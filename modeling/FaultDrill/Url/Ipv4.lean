import FaultDrill.Text.Reader
import FaultDrill.Url.Basic

/-!
Numeric hosts of 32 bits. They have up to four parts between points, each
decimal, octal after a zero, or hexadecimal after `0x`; the last part fills all
bits that the others leave.
-/

namespace FaultDrill.Url

def digitsBelow? (base : Nat) (digits : List Char) : Option Nat :=
  (digits.mapM fun digit => (Text.hexValue? digit).filter (· < base)).map (Text.valueOf base)

/-- The number a part stands for. A base without digits means zero. -/
def ipv4Part? : List Char → Option Nat
  | [] => none
  | '0' :: 'x' :: digits | '0' :: 'X' :: digits => digitsBelow? 16 digits
  | '0' :: digit :: digits => digitsBelow? 8 (digit :: digits)
  | digits => digitsBelow? 10 digits

/-- The parts of a host, without the empty one behind a point at its end. -/
def hostParts (host : List Char) : List (List Char) :=
  let parts := Text.splitAt '.' host
  if 1 < parts.length && parts.getLast? == some [] then parts.dropLast else parts

/-- A host whose last part is a number can only be a numeric one. -/
def isNumericHost (host : List Char) : Bool :=
  match (hostParts host).getLast? with
  | some part => !part.isEmpty && (part.all Char.isDigit || (ipv4Part? part).isSome)
  | none => false

/-- The address of a numeric host. -/
def ipv4? (host : List Char) : Option Nat := do
  let parts ← (hostParts host).mapM ipv4Part?
  let last ← parts.getLast?
  let earlier := parts.dropLast
  if 4 < parts.length || earlier.any (255 < ·) || Nat.pow 256 (4 - earlier.length) ≤ last then none
  else
    let high := earlier.foldl (fun value part => value * 256 + part) 0
    some (high * Nat.pow 256 (4 - earlier.length) + last)

example : ipv4? "127.0.0.1".toList = some 0x7F000001 := by decide
example : ipv4? "0x7f.1".toList = some 0x7F000001 := by decide
example : ipv4? "1.2.3.256".toList = none := by decide

end FaultDrill.Url
