import FaultDrill.Text.Reader
import FaultDrill.Yaml.Token.Folding

/-!
Scalars between quotes. Between single quotes, a quote is written twice and
nothing else is special. Between double quotes, a backslash starts an escape, and
one at the end of a line joins the next line without a space.
-/

namespace FaultDrill.Yaml

/-- The character a one-letter escape stands for. -/
def escapedChar? : Char → Option Char
  | '0' => some (Char.ofNat 0x00)
  | 'a' => some (Char.ofNat 0x07)
  | 'b' => some (Char.ofNat 0x08)
  | 't' => some '\t'
  | '\t' => some '\t'
  | 'n' => some '\n'
  | 'v' => some (Char.ofNat 0x0B)
  | 'f' => some (Char.ofNat 0x0C)
  | 'r' => some '\r'
  | 'e' => some (Char.ofNat 0x1B)
  | ' ' => some ' '
  | '"' => some '"'
  | '/' => some '/'
  | '\\' => some '\\'
  | 'N' => some (Char.ofNat 0x85)
  | '_' => some (Char.ofNat 0xA0)
  | 'L' => some (Char.ofNat 0x2028)
  | 'P' => some (Char.ofNat 0x2029)
  | _ => none

/-- How many digits follow the letter of a numeric escape. -/
def escapeLength? : Char → Option Nat
  | 'x' => some 2
  | 'u' => some 4
  | 'U' => some 8
  | _ => none

/-- A code point that is a character. -/
def charOfCode? (code : Nat) : Option Char :=
  if code.isValidChar then some (Char.ofNat code) else none

/-- The character of the escape here, which starts with a backslash. -/
def scanEscape (cursor : Cursor) : Option (Char × Cursor) := do
  let letter ← cursor.peek 1
  match escapeLength? letter with
  | none => some (← escapedChar? letter, cursor.skip 2)
  | some length =>
      let written := (cursor.rest.drop 2).take length
      let digits ← written.mapM Text.hexValue?
      if digits.length = length then
        some (← charOfCode? (Text.valueOf 16 digits), cursor.skip (2 + length))
      else none

def quoteChar (isSingle : Bool) : Char := if isSingle then Char.ofNat 39 else '"'

/-- The characters up to white space or the closing quote. The flag tells that
they ended with an escaped line break. -/
def scanQuotedWord (isSingle : Bool) : Nat → Cursor → Option (List Char × Bool × Cursor)
  | 0, cursor => some ([], false, cursor)
  | fuel + 1, cursor =>
      let quote := quoteChar isSingle
      if cursor.blankOrEnd 0 then some ([], false, cursor)
      else if isSingle && cursor.sees quote 0 && cursor.sees quote 1 then do
        let (word, joined, cursor) ← scanQuotedWord isSingle fuel (cursor.skip 2)
        some (quote :: word, joined, cursor)
      else if cursor.sees quote 0 then some ([], false, cursor)
      else if !isSingle && cursor.sees '\\' 0 then
        if (cursor.peek 1).any isBreak then some ([], true, (cursor.skip 1).takeBreak.2)
        else do
          let (char, cursor) ← scanEscape cursor
          let (word, joined, cursor) ← scanQuotedWord isSingle fuel cursor
          some (char :: word, joined, cursor)
      else
        match cursor.rest with
        | [] => some ([], false, cursor)
        | char :: _ => do
            let (word, joined, cursor) ← scanQuotedWord isSingle fuel (cursor.skip 1)
            some (char :: word, joined, cursor)

def scanQuotedWords (isSingle : Bool) : Nat → Cursor → Option (List Char × Cursor)
  | 0, _ => none
  | fuel + 1, cursor =>
      if cursor.onMarker || cursor.atEnd then none
      else do
        let (word, joined, cursor) ← scanQuotedWord isSingle (cursor.rest.length + 1) cursor
        if cursor.sees (quoteChar isSingle) 0 then some (word, cursor.skip 1)
        else
          let start := if joined then Gap.escaped else Gap.empty
          let (gap, cursor) ← start.scan 0 (cursor.rest.length + 1) cursor
          let (more, cursor) ← scanQuotedWords isSingle fuel cursor
          some (word ++ gap.text ++ more, cursor)

/-- The scalar behind the opening quote here. -/
def scanQuoted (isSingle : Bool) (cursor : Cursor) : Option (String × Cursor) := do
  let (text, cursor) ← scanQuotedWords isSingle (cursor.rest.length + 1) (cursor.skip 1)
  some (String.ofList text, cursor)

end FaultDrill.Yaml
