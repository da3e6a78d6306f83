/-!
A place in YAML text: what is still to be read, and the line and column of its
first character. Line breaks are read as one line feed, whichever of the five
spellings they have, except that the two separators of the character standard
stand for themselves.
-/

namespace FaultDrill.Yaml

def isBreak (char : Char) : Bool :=
  char = '\n' || char = '\r' || char = '\u0085' || char = '\u2028' || char = '\u2029'

def isBlank (char : Char) : Bool := char = ' ' || char = '\t'

/-- Characters of directive names, anchors and tag handles. -/
def isWord (char : Char) : Bool := char.isAlphanum || char = '_' || char = '-'

/-- Characters that may occur in YAML text at all. -/
def isAllowed (char : Char) : Bool :=
  let code := char.toNat
  code = 0x09 || code = 0x0A || code = 0x0D || (0x20 ≤ code && code ≤ 0x7E) || code = 0x85 ||
    (0xA0 ≤ code && code ≤ 0xD7FF) || (0xE000 ≤ code && code ≤ 0xFFFD) || 0x10000 ≤ code

structure Cursor where
  rest : List Char
  index : Nat
  line : Nat
  column : Nat

namespace Cursor

def ofText (text : List Char) : Cursor := ⟨text, 0, 0, 0⟩

/-- The character at a distance. -/
def peek (cursor : Cursor) (distance : Nat) : Option Char := cursor.rest[distance]?

/-- A certain character stands at a distance. -/
def sees (cursor : Cursor) (char : Char) (distance : Nat) : Bool :=
  cursor.peek distance == some char

def atEnd (cursor : Cursor) : Bool := cursor.rest.isEmpty

def onBlank (cursor : Cursor) : Bool := (cursor.peek 0).any isBlank

def onBreak (cursor : Cursor) : Bool := (cursor.peek 0).any isBreak

/-- A line break or the end of the text stands at a distance. -/
def breakOrEnd (cursor : Cursor) (distance : Nat) : Bool := (cursor.peek distance).all isBreak

/-- A blank, a line break or the end of the text stands at a distance. -/
def blankOrEnd (cursor : Cursor) (distance : Nat) : Bool :=
  (cursor.peek distance).all fun char => isBlank char || isBreak char

/-- The place some characters further on the same line. -/
def skip (cursor : Cursor) (count : Nat) : Cursor :=
  { cursor with
    rest := cursor.rest.drop count
    index := cursor.index + count
    column := cursor.column + count }

/-- The characters of the line up to the first that is not wanted. -/
def takeWhile (cursor : Cursor) (wanted : Char → Bool) : List Char × Cursor :=
  let taken := cursor.rest.takeWhile wanted
  (taken, cursor.skip taken.length)

def skipWhile (cursor : Cursor) (wanted : Char → Bool) : Cursor := (cursor.takeWhile wanted).2

/-- Skips to the end of the line. -/
def skipComment (cursor : Cursor) : Cursor :=
  if cursor.sees '#' 0 then cursor.skipWhile fun char => !isBreak char else cursor

/-- The line break that stands here, if any, and the place behind it. -/
def takeBreak (cursor : Cursor) : List Char × Cursor :=
  let next (rest : List Char) (length : Nat) : Cursor :=
    ⟨rest, cursor.index + length, cursor.line + 1, 0⟩
  match cursor.rest with
  | '\r' :: '\n' :: rest => (['\n'], next rest 2)
  | char :: rest =>
      if isBreak char then
        ([if char = '\u2028' || char = '\u2029' then char else '\n'], next rest 1)
      else ([], cursor)
  | [] => ([], cursor)

/-- A line that consists of three times the character, up to a blank or its end. -/
def seesMarker (cursor : Cursor) (char : Char) : Bool :=
  cursor.column = 0 && cursor.sees char 0 && cursor.sees char 1 && cursor.sees char 2 &&
    cursor.blankOrEnd 3

/-- The start or the end of a document is marked here. -/
def onMarker (cursor : Cursor) : Bool := cursor.seesMarker '-' || cursor.seesMarker '.'

/-- The end of a line that may hold blanks and a comment and nothing more. -/
def restOfLine (cursor : Cursor) : Option Cursor :=
  let cursor := (cursor.skipWhile isBlank).skipComment
  if cursor.breakOrEnd 0 then some cursor.takeBreak.2 else none

end Cursor

end FaultDrill.Yaml
