import FaultDrill.Text.Reader
import FaultDrill.Url.Direction
import FaultDrill.Url.Punycode

/-!
Host names in any script. Letters are compared without regard to case, some
characters are other ways to write plain ones, some do not count at all, and some
cannot occur in a name.
-/

namespace FaultDrill.Url

/-- Characters without width that make no difference to a name. -/
def uncounted : Ranges :=
  [(0xAD, 0xAD), (0x34F, 0x34F), (0x180B, 0x180F), (0x200B, 0x200B), (0x2060, 0x2060),
   (0x2064, 0x2064), (0xFE00, 0xFE0F), (0xFEFF, 0xFEFF), (0x1BCA0, 0x1BCA3),
   (0xE0100, 0xE01EF)]

/-- Blanks, controls, joiners, code points without a character of their own, and
characters that stand for several of which one separates the parts of an address. -/
def refused : Ranges :=
  [(0x80, 0xA0), (0xA8, 0xA8), (0xAF, 0xAF), (0xB4, 0xB4), (0xB8, 0xB8), (0x2D8, 0x2DD),
   (0x378, 0x37A), (0x380, 0x385), (0x61C, 0x61C), (0x6DD, 0x6DD), (0x70F, 0x70F),
   (0x8E2, 0x8E2), (0x115F, 0x1160), (0x1680, 0x1680), (0x17B4, 0x17B5), (0x1806, 0x1806),
   (0x180E, 0x180E), (0x1FBD, 0x1FBD), (0x1FBF, 0x1FC1), (0x1FCD, 0x1FCF), (0x1FDC, 0x1FDF),
   (0x1FED, 0x1FEE), (0x1FFD, 0x200A), (0x200C, 0x200F), (0x2017, 0x2017), (0x2024, 0x2026),
   (0x2028, 0x202F), (0x203E, 0x203E), (0x2047, 0x2049), (0x205F, 0x205F), (0x2061, 0x2063),
   (0x2065, 0x206F), (0x2100, 0x2101), (0x2105, 0x2106), (0x2488, 0x249B), (0x2A74, 0x2A74),
   (0x2FF0, 0x3000), (0x309B, 0x309C), (0x3164, 0x3164), (0x33C2, 0x33C2), (0x33C7, 0x33C7),
   (0x33D8, 0x33D8), (0xE000, 0xF8FF), (0xFDD0, 0xFDEF), (0xFDFA, 0xFDFB), (0xFE12, 0xFE13),
   (0xFE16, 0xFE16), (0xFE19, 0xFE1F), (0xFE30, 0xFE30), (0xFE47, 0xFE4C), (0xFE52, 0xFE53),
   (0xFE55, 0xFE56), (0xFE5F, 0xFE5F), (0xFE64, 0xFE65), (0xFE67, 0xFE68), (0xFE6A, 0xFE6F),
   (0xFFA0, 0xFFA0), (0xFFE3, 0xFFE3), (0xFFF0, 0xFFFF), (0x110BD, 0x110BD),
   (0x110CD, 0x110CD), (0x13430, 0x1343F), (0x1D173, 0x1D17A), (0x1F0F6, 0x1F100),
   (0xE0000, 0xE00FF), (0xE01F0, 0x10FFFF)]

/-- Plain characters that separate the parts of an address. -/
def isForbidden (char : Char) : Bool :=
  char.toNat ≤ 0x20 || char.toNat = 0x7F || "%#/:<>?@[]^|\\".toList.contains char

/-- The plain character that another one is only a wide form of. -/
def narrowed (char : Char) : Char :=
  if 0xFF01 ≤ char.toNat && char.toNat ≤ 0xFF5E then Char.ofNat (char.toNat - 0xFEE0)
  else if char = '\u3002' || char = '\uff61' then '.'
  else char

/-- The characters a character of a name stands for. -/
def nameChars? (char : Char) : Option (List Char) :=
  if uncounted.contains char then some []
  else if refused.contains char then none
  else
    let plain := (narrowed char).toLower
    if isForbidden plain then none else some [plain]

def isPlain (text : List Char) : Bool := text.all fun char => char.toNat < 0x80

/-- A part of a name may not start with a mark. -/
def isProperLabel (label : List Char) : Bool := !(label.head?.any combining.contains)

/-- A part of a name. One that starts with `xn--` is coded, and its code must
stand for a part that could not be written otherwise. -/
def label? (label : List Char) : Option (List Char) := do
  match label with
  | 'x' :: 'n' :: '-' :: '-' :: code =>
      if !isPlain code then none
      else
        let decoded ← Punycode.decode? code
        let mapped ← decoded.mapM nameChars?
        if mapped.flatten = decoded && !isPlain decoded && isProperLabel decoded then some decoded
        else none
  | label => if isProperLabel label then some label else none

/-- The parts of a name joined by points. -/
def joinLabels : List (List Char) → List Char
  | [] => []
  | [label] => label
  | label :: rest => label ++ '.' :: joinLabels rest

/-- The name a host is looked up by. -/
def name? (bytes : List UInt8) : Option (List Char) := do
  let text ← String.fromUTF8? ⟨bytes.toArray⟩
  let mapped ← text.toList.mapM nameChars?
  let labels ← (Text.splitAt '.' mapped.flatten).mapM label?
  if isOneWay labels then some (joinLabels labels) else none

end FaultDrill.Url
