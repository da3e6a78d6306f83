import FaultDrill.Text.Reader

/-!
Percent escapes. A character that may not stand for itself is replaced by the
bytes of its encoding, each as a percent sign and two hexadecimal digits.
-/

namespace FaultDrill.Url

def hexDigit (value : Nat) : Char :=
  if value < 10 then Char.ofNat ('0'.toNat + value) else Char.ofNat ('A'.toNat + (value - 10))

def escapeByte (byte : UInt8) : List Char :=
  ['%', hexDigit (byte.toNat / 16), hexDigit (byte.toNat % 16)]

/-- Escapes the characters that are set apart. -/
def escape (isSetApart : Char → Bool) (text : List Char) : List Char :=
  text.flatMap fun char =>
    if isSetApart char then (String.utf8EncodeChar char).flatMap escapeByte else [char]

example : escape (· = ' ') ['a', ' '] = ['a', '%', '2', '0'] := by decide

/-- The bytes of a text whose escapes are undone. A percent sign without two
digits behind it stands for itself. -/
def unescape : List Char → List UInt8
  | '%' :: high :: low :: rest =>
      match Text.hexValue? high, Text.hexValue? low with
      | some high, some low => UInt8.ofNat (high * 16 + low) :: unescape rest
      | _, _ => UInt8.ofNat '%'.toNat :: unescape (high :: low :: rest)
  | char :: rest => String.utf8EncodeChar char ++ unescape rest
  | [] => []

/-- Control characters and everything beyond seven bits. -/
def isOutsidePrintable (char : Char) : Bool := char.toNat < 0x20 || 0x7E < char.toNat

def isSetApartInPath (char : Char) : Bool :=
  isOutsidePrintable char || " \"<>\x60#?\x7b\x7d".toList.contains char

def isSetApartInQuery (char : Char) : Bool :=
  isOutsidePrintable char || " \"<>#".toList.contains char || char.toNat = 39

end FaultDrill.Url
