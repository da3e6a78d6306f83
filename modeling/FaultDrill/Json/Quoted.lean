import FaultDrill.Text.Reader

/-!
Texts between quotes. Quotes, backslashes and control characters are written
with a backslash; everything else stands for itself. Reading knows two more
escapes, the slash and any 16-bit unit by its four digits; a character beyond
the first 65536 takes two such units in a row.
-/

namespace FaultDrill.Json

/-! Writing -/

def hexDigit (value : Nat) : Char :=
  if value < 10 then Char.ofNat (48 + value) else Char.ofNat (87 + value)

def escaped (char : Char) : List Char :=
  if char = '"' then ['\\', '"']
  else if char = '\\' then ['\\', '\\']
  else if char = '\n' then ['\\', 'n']
  else if char = '\r' then ['\\', 'r']
  else if char = '\t' then ['\\', 't']
  else if char.toNat = 8 then ['\\', 'b']
  else if char.toNat = 12 then ['\\', 'f']
  else if char.toNat < 32 then
    ['\\', 'u', '0', '0', hexDigit (char.toNat / 16), hexDigit (char.toNat % 16)]
  else [char]

def quoted (text : List Char) : List Char :=
  '"' :: (text.flatMap escaped ++ ['"'])

example : quoted ['a', '"'] = ['"', 'a', '\\', '"', '"'] := by decide

/-! Reading -/

/-- A piece of a quoted text: a character, or a 16-bit unit given by its digits. -/
inductive Piece where
  | char (char : Char)
  | unit (value : Nat)
  deriving Repr, DecidableEq

def unescaped? : Char → Option Char
  | '"' => some '"'
  | '\\' => some '\\'
  | '/' => some '/'
  | 'b' => some (Char.ofNat 8)
  | 'f' => some (Char.ofNat 12)
  | 'n' => some '\n'
  | 'r' => some '\r'
  | 't' => some '\t'
  | _ => none

/-- The pieces up to the closing quote, and what follows it. -/
def readPieces : List Char → Option (List Piece × List Char)
  | [] => none
  | '"' :: rest => some ([], rest)
  | '\\' :: 'u' :: a :: b :: c :: d :: rest => do
      let digits ← [a, b, c, d].mapM Text.hexValue?
      let (pieces, rest) ← readPieces rest
      some (.unit (Text.valueOf 16 digits) :: pieces, rest)
  | '\\' :: escape :: rest => do
      let char ← unescaped? escape
      let (pieces, rest) ← readPieces rest
      some (.char char :: pieces, rest)
  | char :: rest =>
      if char.toNat < 32 then none
      else do
        let (pieces, rest) ← readPieces rest
        some (.char char :: pieces, rest)

def isHighSurrogate (unit : Nat) : Bool := 0xD800 ≤ unit && unit < 0xDC00

def isLowSurrogate (unit : Nat) : Bool := 0xDC00 ≤ unit && unit < 0xE000

/-- The characters of the pieces. Half of a pair alone is no character. -/
def joinPieces : List Piece → Option (List Char)
  | [] => some []
  | .char char :: rest => do
      let chars ← joinPieces rest
      some (char :: chars)
  | .unit high :: .unit low :: rest =>
      if isHighSurrogate high then
        if isLowSurrogate low then do
          let chars ← joinPieces rest
          some (Char.ofNat (0x10000 + (high - 0xD800) * 0x400 + (low - 0xDC00)) :: chars)
        else none
      else if isLowSurrogate high then none
      else do
        let chars ← joinPieces (.unit low :: rest)
        some (Char.ofNat high :: chars)
  | .unit unit :: rest =>
      if isHighSurrogate unit || isLowSurrogate unit then none
      else do
        let chars ← joinPieces rest
        some (Char.ofNat unit :: chars)

/-! Texts read one byte at a time, when it is not known whether the bytes encode
characters. Then every byte is a piece, and only those of a text that is used have to
encode something. -/

/-- The pieces with the characters that stretches of bytes encode. The stretch read so
far comes latest first. -/
def decodePieces (stretch : List UInt8) : List Piece → Option (List Piece)
  | .char byte :: rest => decodePieces (UInt8.ofNat byte.toNat :: stretch) rest
  | .unit value :: rest => do
      let text ← String.fromUTF8? ⟨stretch.reverse.toArray⟩
      let pieces ← decodePieces [] rest
      some (text.toList.map .char ++ .unit value :: pieces)
  | [] => do
      let text ← String.fromUTF8? ⟨stretch.reverse.toArray⟩
      some (text.toList.map .char)

/-- The characters of pieces that are bytes. -/
def joinBytes (pieces : List Piece) : Option (List Char) :=
  (decodePieces [] pieces).bind joinPieces

example : joinBytes [.char '\u00c3', .char '\u00a9', .unit 0x41] = some ['é', 'A'] := by
  decide +kernel

example : joinBytes [.char '\u00c3', .unit 0xA9] = none := by decide +kernel

end FaultDrill.Json
