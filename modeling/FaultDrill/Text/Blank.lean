/-!
Blank characters: the twenty-five code points with the white-space property of
the character standard.
-/

namespace FaultDrill.Text

/-- Closed ranges of blank code points, ascending and apart. -/
def blankRanges : List (Nat × Nat) :=
  [(0x09, 0x0D), (0x20, 0x20), (0x85, 0x85), (0xA0, 0xA0), (0x1680, 0x1680), (0x2000, 0x200A),
   (0x2028, 0x2029), (0x202F, 0x202F), (0x205F, 0x205F), (0x3000, 0x3000)]

example : (blankRanges.map fun range => range.2 + 1 - range.1).sum = 25 := by decide

def isBlank (char : Char) : Bool :=
  blankRanges.any fun range => range.1 ≤ char.toNat && char.toNat ≤ range.2

/-- A text of blanks only, the empty one included. -/
def allBlank (text : String) : Bool :=
  text.toList.all isBlank

end FaultDrill.Text
