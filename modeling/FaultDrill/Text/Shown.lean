/-!
Texts between quotes with everything visible: quotes and backslashes are escaped,
and characters that leave no ink are written by number.
-/

namespace FaultDrill.Text

/-- Ranges of characters that cannot be seen by themselves: controls, blanks other
than the plain one, marks that join the character before them, marks of direction,
and characters for private use. -/
def inkless : List (Nat × Nat) :=
  [(0x00, 0x1F), (0x7F, 0xA0), (0xAD, 0xAD), (0x300, 0x36F), (0x483, 0x489), (0x591, 0x5BD),
   (0x600, 0x605), (0x610, 0x61A), (0x61C, 0x61C), (0x64B, 0x65F), (0x6DD, 0x6DD),
   (0x180E, 0x180E), (0x1680, 0x1680), (0x1AB0, 0x1ACE), (0x1DC0, 0x1DFF), (0x2000, 0x200F),
   (0x2028, 0x202F), (0x205F, 0x206F), (0x20D0, 0x20F0), (0x3000, 0x3000), (0xE000, 0xF8FF),
   (0xFE00, 0xFE0F), (0xFE20, 0xFE2F), (0xFEFF, 0xFEFF), (0xFFF0, 0xFFFB), (0xFFFE, 0xFFFF),
   (0xE0000, 0x10FFFF)]

def isInkless (char : Char) : Bool :=
  inkless.any fun (first, last) => first ≤ char.toNat && char.toNat ≤ last

/-- The number of a character in braces. -/
def numbered (char : Char) : List Char :=
  ['\\', 'u', '\x7b'] ++ Nat.toDigits 16 char.toNat ++ ['\x7d']

def shownChar (char : Char) : List Char :=
  match char with
  | '"' => ['\\', '"']
  | '\\' => ['\\', '\\']
  | '\n' => ['\\', 'n']
  | '\r' => ['\\', 'r']
  | '\t' => ['\\', 't']
  | '\x00' => ['\\', '0']
  | char => if isInkless char then numbered char else [char]

def shown (text : String) : String :=
  String.ofList ('"' :: text.toList.flatMap shownChar ++ ['"'])

example : shown "a \"b\"\x1b" = "\"a \\\"b\\\"\\u\x7b1b\x7d\"" := by decide +kernel

end FaultDrill.Text
