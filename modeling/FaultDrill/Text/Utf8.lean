/-!
Bytes as text. What is not well formed is replaced, one replacement for each
stretch that could have started a character.
-/

namespace FaultDrill.Text

/-- The character that stands for bytes that are none. -/
def replacement : Char := Char.ofNat 0xFFFD

/-- A character of which some bytes are still to come. -/
structure Unfinished where
  /-- The bits so far. -/
  bits : Nat
  missing : Nat
  /-- The range of the next byte. -/
  low : Nat
  high : Nat

/-- The first byte of a character: the character, its start, or a replacement. -/
def startCharacter (byte : Nat) : List Char × Option Unfinished :=
  let long := fun missing low high =>
    ([], some ⟨byte % Nat.pow 2 (6 - missing), missing, low, high⟩)
  if byte < 0x80 then ([Char.ofNat byte], none)
  else if 0xC2 ≤ byte && byte ≤ 0xDF then long 1 0x80 0xBF
  else if byte = 0xE0 then long 2 0xA0 0xBF
  else if byte = 0xED then long 2 0x80 0x9F
  else if 0xE1 ≤ byte && byte ≤ 0xEF then long 2 0x80 0xBF
  else if byte = 0xF0 then long 3 0x90 0xBF
  else if 0xF1 ≤ byte && byte ≤ 0xF3 then long 3 0x80 0xBF
  else if byte = 0xF4 then long 3 0x80 0x8F
  else ([replacement], none)

/-- The characters of bytes behind a character that may be unfinished. -/
def decodeFrom : Option Unfinished → List UInt8 → List Char
  | none, [] => []
  | some _, [] => [replacement]
  | none, byte :: rest =>
      let (chars, unfinished) := startCharacter byte.toNat
      chars ++ decodeFrom unfinished rest
  | some unfinished, byte :: rest =>
      if unfinished.low ≤ byte.toNat && byte.toNat ≤ unfinished.high then
        let bits := unfinished.bits * 64 + byte.toNat % 64
        if unfinished.missing = 1 then Char.ofNat bits :: decodeFrom none rest
        else decodeFrom (some ⟨bits, unfinished.missing - 1, 0x80, 0xBF⟩) rest
      else
        let (chars, next) := startCharacter byte.toNat
        replacement :: (chars ++ decodeFrom next rest)

def ofBytes (bytes : List UInt8) : String := String.ofList (decodeFrom none bytes)

example : ofBytes [0xC3, 0xA9, 0x41] = "éA" := by decide
example : ofBytes [0xE2, 0x82, 0x41, 0xFF] = "\uFFFDA\uFFFD" := by decide

end FaultDrill.Text
