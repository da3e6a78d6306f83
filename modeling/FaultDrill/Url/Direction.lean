/-!
Host names in scripts that run from right to left. A name that holds any letter
of such a script keeps to one direction in each of its parts, so that no two
names look the same on a line.
-/

namespace FaultDrill.Url

/-- Closed ranges of code points. -/
abbrev Ranges := List (Nat × Nat)

def Ranges.contains (ranges : Ranges) (char : Char) : Bool :=
  ranges.any fun range => range.1 ≤ char.toNat && char.toNat ≤ range.2

/-- Marks that belong to the character in front of them. -/
def combining : Ranges :=
  [(0x300, 0x36F), (0x483, 0x489), (0x591, 0x5BD), (0x5BF, 0x5BF), (0x5C1, 0x5C2),
   (0x5C4, 0x5C5), (0x5C7, 0x5C7), (0x610, 0x61A), (0x64B, 0x65F), (0x670, 0x670),
   (0x6D6, 0x6DC), (0x6DF, 0x6E4), (0x6E7, 0x6E8), (0x6EA, 0x6ED), (0x711, 0x711),
   (0x730, 0x74A), (0x7A6, 0x7B0), (0x7EB, 0x7F3), (0x7FD, 0x7FD), (0x816, 0x819),
   (0x81B, 0x823), (0x825, 0x827), (0x829, 0x82D), (0x859, 0x85B), (0x898, 0x89F),
   (0x8CA, 0x8E1), (0x8E3, 0x903), (0x93A, 0x93C), (0x93E, 0x94F), (0x1AB0, 0x1AFF),
   (0x1DC0, 0x1DFF), (0x20D0, 0x20FF), (0x302A, 0x302F), (0x3099, 0x309A), (0xFE20, 0xFE2F)]

/-- How a character takes part in the direction of a text. -/
inductive Direction where
  | leftToRight
  | rightToLeft
  /-- A digit that letters of either direction may be followed by. -/
  | digit
  /-- A digit of the scripts that run from right to left. -/
  | arabicDigit
  | mark
  | neutral
  deriving DecidableEq

namespace Direction

def rightToLeftChars : Ranges :=
  [(0x590, 0x5FF), (0x608, 0x608), (0x60B, 0x60B), (0x60D, 0x64A), (0x66D, 0x6EF), (0x6FA, 0x8FF),
   (0xFB1D, 0xFDFF), (0xFE70, 0xFEFC), (0x10800, 0x10FFF), (0x1E800, 0x1EEFF)]

def arabicDigits : Ranges := [(0x600, 0x605), (0x660, 0x669), (0x66B, 0x66C)]

def neutralChars : Ranges :=
  [(0x21, 0x2F), (0x3A, 0x40), (0x5B, 0x60), (0x7B, 0xA9), (0xAB, 0xB4), (0xB6, 0xB8),
   (0xBB, 0xBF), (0xD7, 0xD7), (0xF7, 0xF7), (0x606, 0x607), (0x609, 0x60A), (0x60C, 0x60C),
   (0x60E, 0x60F), (0x66A, 0x66A), (0x6DE, 0x6DE), (0x6E9, 0x6E9), (0x7F6, 0x7F9),
   (0x2010, 0x206F), (0x20A0, 0x20C0), (0x2190, 0x2BFF),
   (0x2E00, 0x3004), (0x3008, 0x3020), (0xFB29, 0xFB29),
   (0xFD3E, 0xFD4F), (0xFDCF, 0xFDCF), (0xFDFD, 0xFDFF), (0x1F000, 0x1FBFF)]

def ofChar (char : Char) : Direction :=
  if char.isDigit || (0x6F0 ≤ char.toNat && char.toNat ≤ 0x6F9) then digit
  else if arabicDigits.contains char then arabicDigit
  else if combining.contains char then mark
  else if neutralChars.contains char then neutral
  else if rightToLeftChars.contains char then rightToLeft
  else leftToRight

/-- A part of a name that starts from the right holds nothing from the left and
digits of one sort; one that starts from the left holds no letters and digits
from the right. Apart from marks either ends in a letter or a digit. -/
def isConsistent (directions : List Direction) : Bool :=
  let ending := directions.reverse.dropWhile (· = mark)
  match directions.head? with
  | none => true
  | some rightToLeft =>
      !directions.contains leftToRight &&
        !(directions.contains digit && directions.contains arabicDigit) &&
        ending.head? ≠ some neutral
  | some leftToRight =>
      !directions.contains rightToLeft && !directions.contains arabicDigit &&
        ending.head? ≠ some neutral
  | some _ => false

end Direction

/-- Every part of a name keeps to one direction, unless nothing in the name runs
from right to left. -/
def isOneWay (labels : List (List Char)) : Bool :=
  let directions := labels.map fun label => label.map Direction.ofChar
  directions.all (fun label => !label.contains .rightToLeft && !label.contains .arabicDigit) ||
    directions.all Direction.isConsistent

example : isOneWay ["a1".toList, "1a".toList] = true := by decide +kernel
example : isOneWay ["אב".toList, "1a".toList] = false := by decide +kernel

end FaultDrill.Url
