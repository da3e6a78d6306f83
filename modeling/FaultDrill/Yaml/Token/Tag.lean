import FaultDrill.Text.Reader
import FaultDrill.Yaml.Cursor
import FaultDrill.Yaml.Token.Basic

/-!
Anchors, aliases, tags and directives.
-/

namespace FaultDrill.Yaml

/-! Anchors -/

/-- What may stand behind the name of an anchor. -/
def endsAnchor (cursor : Cursor) : Bool :=
  cursor.blankOrEnd 0 ||
    (cursor.peek 0).any fun char => "?:,]\x7d%@\x60".toList.contains char

/-- The name behind the indicator here. -/
def scanAnchor (cursor : Cursor) : Option (String × Cursor) :=
  let (name, cursor) := (cursor.skip 1).takeWhile isWord
  if name.isEmpty || !endsAnchor cursor then none else some (String.ofList name, cursor)

/-! Tags -/

/-- Characters of a tag; a verbatim one may hold a few more. -/
def isTagChar (isVerbatim : Bool) (char : Char) : Bool :=
  isWord char || ";/?:@&=+$.!~*()%".toList.contains char || char.toNat = 39 ||
    (isVerbatim && (char = ',' || char = '[' || char = ']'))

/-- The bytes of a run of percent escapes of one character. -/
def escapedByte? : List Char → Option (Nat × List Char)
  | '%' :: high :: low :: rest => do
      some ((← Text.hexValue? high) * 16 + (← Text.hexValue? low), rest)
  | _ => none

/-- How many bytes a character has whose encoding starts with this byte. -/
def encodedLength? (first : Nat) : Option Nat :=
  if first < 0x80 then some 1
  else if 0xC0 ≤ first && first < 0xE0 then some 2
  else if 0xE0 ≤ first && first < 0xF0 then some 3
  else if 0xF0 ≤ first && first < 0xF8 then some 4
  else none

/-- The value of `count` continuation bytes behind what is known already. -/
def continuation? : Nat → Nat → List Char → Option (Nat × List Char)
  | 0, value, rest => some (value, rest)
  | count + 1, value, rest => do
      let (byte, rest) ← escapedByte? rest
      if 0x80 ≤ byte && byte < 0xC0 then continuation? count (value * 64 + (byte - 0x80)) rest
      else none

/-- A character whose bytes are given by percent escapes. -/
def escapedTagChar? (text : List Char) : Option (Char × List Char) := do
  let (first, rest) ← escapedByte? text
  let length ← encodedLength? first
  let known := if length = 1 then first else first % Nat.pow 2 (7 - length)
  let (code, rest) ← continuation? (length - 1) known rest
  some (if code.isValidChar then Char.ofNat code else '\ufffd', rest)

def scanTagText (isVerbatim : Bool) : Nat → Cursor → Option (List Char × Cursor)
  | 0, cursor => some ([], cursor)
  | fuel + 1, cursor =>
      match cursor.rest with
      | [] => some ([], cursor)
      | '%' :: _ => do
          let (char, rest) ← escapedTagChar? cursor.rest
          let (text, cursor) ←
            scanTagText isVerbatim fuel (cursor.skip (cursor.rest.length - rest.length))
          some (char :: text, cursor)
      | char :: _ =>
          if isTagChar isVerbatim char then do
            let (text, cursor) ← scanTagText isVerbatim fuel (cursor.skip 1)
            some (char :: text, cursor)
          else some ([], cursor)

/-- An exclamation mark, and up to a second one if only word characters stand
between the two. -/
def scanTagHandle (cursor : Cursor) : Option (List Char × Cursor) :=
  if cursor.sees '!' 0 then
    let (name, next) := (cursor.skip 1).takeWhile isWord
    if next.sees '!' 0 then some ('!' :: (name ++ ['!']), next.skip 1)
    else some ('!' :: name, next)
  else none

/-- A handle that ends in an exclamation mark of its own. -/
def isClosedHandle (handle : List Char) : Bool :=
  1 < handle.length && handle.getLast? == some '!'

/-- The tag here, as handle and suffix. A tag given in full has an empty handle,
and so has the lone exclamation mark. -/
def scanTag (inFlow : Bool) (cursor : Cursor) : Option (Token × Cursor) := do
  let (token, cursor) ←
    if cursor.sees '<' 1 then do
      let cursor := cursor.skip 2
      let (text, cursor) ← scanTagText true (cursor.rest.length + 1) cursor
      if text.isEmpty || !cursor.sees '>' 0 then none
      else some (Token.tag "" (String.ofList text), cursor.skip 1)
    else do
      let (handle, cursor) ← scanTagHandle cursor
      let (text, cursor) ← scanTagText false (cursor.rest.length + 1) cursor
      if isClosedHandle handle then
        if text.isEmpty then none
        else some (Token.tag (String.ofList handle) (String.ofList text), cursor)
      else
        let suffix := handle.drop 1 ++ text
        if suffix.isEmpty then some (Token.tag "" "!", cursor)
        else some (Token.tag "!" (String.ofList suffix), cursor)
  if cursor.blankOrEnd 0 || (inFlow && cursor.sees ',' 0) then some (token, cursor) else none

/-! Directives -/

/-- A number of at most nine digits. -/
def scanVersionNumber (cursor : Cursor) : Option (Nat × Cursor) :=
  let (digits, cursor) := cursor.takeWhile Char.isDigit
  if digits.isEmpty || 9 < digits.length then none else some (Text.decimalValue digits, cursor)

def scanVersion (cursor : Cursor) : Option (Token × Cursor) := do
  let (major, cursor) ← scanVersionNumber (cursor.skipWhile isBlank)
  if cursor.sees '.' 0 then
    let (minor, cursor) ← scanVersionNumber (cursor.skip 1)
    some (.versionDirective major minor, cursor)
  else none

def scanTagDefinition (cursor : Cursor) : Option (Token × Cursor) := do
  let (handle, cursor) ← scanTagHandle (cursor.skipWhile isBlank)
  if (handle = ['!'] || isClosedHandle handle) && cursor.onBlank then
    let cursor := cursor.skipWhile isBlank
    let (target, cursor) ← scanTagText true (cursor.rest.length + 1) cursor
    if target.isEmpty || !cursor.blankOrEnd 0 then none
    else some (.tagDirective (String.ofList handle) (String.ofList target), cursor)
  else none

/-- The directive behind the percent sign here, with the rest of its line. -/
def scanDirective (cursor : Cursor) : Option (Token × Cursor) := do
  let (name, cursor) := (cursor.skip 1).takeWhile isWord
  if !cursor.blankOrEnd 0 then none
  else
    let (token, cursor) ← match String.ofList name with
      | "YAML" => scanVersion cursor
      | "TAG" => scanTagDefinition cursor
      | _ => none
    some (token, ← cursor.restOfLine)

end FaultDrill.Yaml
