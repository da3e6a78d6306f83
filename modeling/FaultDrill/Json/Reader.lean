import FaultDrill.Json.Number
import FaultDrill.Json.Quoted

/-!
Reading JSON text. Grammar faults refuse the whole text. A number or a text that
is well written but stands for nothing is read as unusable, so that it does no
harm where nobody asks for it.
-/

namespace FaultDrill.Json

def isSpace (char : Char) : Bool :=
  char = ' ' || char = '\n' || char = '\r' || char = '\t'

def skipSpace (text : List Char) : List Char := text.dropWhile isSpace

/-- A text up to its closing quote, whose pieces have still to be joined. -/
def readText (join : List Piece → Option (List Char)) (text : List Char) :
    Option (Value × List Char) := do
  let (pieces, rest) ← readPieces text
  match join pieces with
  | some chars => some (.text (String.ofList chars), rest)
  | none => some (.unusable, rest)

/-- Lists and records may be nested this deep; deeper ones are unusable. -/
def deepest : Nat := 127

mutual

/-- A value at the start of a text, and the rest, with `room` levels of nesting
left. Every second step takes a character, so twice the length of the text is
fuel enough. -/
def readValue (join : List Piece → Option (List Char)) :
    Nat → Nat → List Char → Option (Value × List Char)
  | 0, _, _ => none
  | fuel + 1, room, text =>
      let nested (value : Value) : Value := if room = 0 then .unusable else value
      match skipSpace text with
      | 'n' :: 'u' :: 'l' :: 'l' :: rest => some (.null, rest)
      | 't' :: 'r' :: 'u' :: 'e' :: rest => some (.truth true, rest)
      | 'f' :: 'a' :: 'l' :: 's' :: 'e' :: rest => some (.truth false, rest)
      | '"' :: rest => readText join rest
      | '[' :: rest =>
          match skipSpace rest with
          | ']' :: rest => some (nested (.list []), rest)
          | rest => (readItems join fuel (room - 1) rest).map fun (items, rest) =>
              (nested (.list items), rest)
      | '\x7b' :: rest =>
          match skipSpace rest with
          | '\x7d' :: rest => some (nested (.record []), rest)
          | rest => (readEntries join fuel (room - 1) rest).map fun (entries, rest) =>
              (nested (.record entries), rest)
      | rest => (readNumber rest).map fun (number, rest) => (number.toValue, rest)

/-- One or more values with commas between them, up to the closing bracket. -/
def readItems (join : List Piece → Option (List Char)) :
    Nat → Nat → List Char → Option (List Value × List Char)
  | 0, _, _ => none
  | fuel + 1, room, text => do
      let (item, rest) ← readValue join fuel room text
      match skipSpace rest with
      | ',' :: rest => do
          let (items, rest) ← readItems join fuel room rest
          some (item :: items, rest)
      | ']' :: rest => some ([item], rest)
      | _ => none

/-- One or more entries with commas between them, up to the closing brace. -/
def readEntries (join : List Piece → Option (List Char)) :
    Nat → Nat → List Char → Option (List (Value × Value) × List Char)
  | 0, _, _ => none
  | fuel + 1, room, text => do
      let (key, rest) ← match skipSpace text with
        | '"' :: rest => readText join rest
        | _ => none
      let rest ← match skipSpace rest with
        | ':' :: rest => some rest
        | _ => none
      let (value, rest) ← readValue join fuel room rest
      match skipSpace rest with
      | ',' :: rest => do
          let (entries, rest) ← readEntries join fuel room rest
          some ((key, value) :: entries, rest)
      | '\x7d' :: rest => some ([(key, value)], rest)
      | _ => none

end

/-- The value that characters hold, nothing but spaces around it. -/
def parseChars (join : List Piece → Option (List Char)) (chars : List Char) : Option Value :=
  match readValue join (2 * chars.length + 2) deepest chars with
  | some (value, rest) => if (skipSpace rest).isEmpty then some value else none
  | none => none

def parse (text : String) : Option Value := parseChars joinPieces text.toList

/-- The value that bytes hold. A text among them that encodes nothing is unusable. -/
def parseBytes (bytes : List UInt8) : Option Value :=
  parseChars joinBytes (bytes.map fun byte => Char.ofNat byte.toNat)

end FaultDrill.Json
