import FaultDrill.Text.Reader
import FaultDrill.Yaml.Cursor

/-!
Scalars laid out as an indented block. A literal block keeps its line breaks; in
a folded one a single line break between two lines that do not start with a blank
becomes a space. The header says what happens to the line breaks at the end.
-/

namespace FaultDrill.Yaml

/-- What becomes of the line breaks at the end of a block. -/
inductive Chomping where
  | strip
  | clip
  | keep
  deriving DecidableEq

structure BlockHeader where
  chomping : Chomping
  /-- The indentation beyond that of the parent, if it is given. -/
  increment : Option Nat

def scanChomping (cursor : Cursor) : Option (Chomping × Cursor) :=
  if cursor.sees '+' 0 then some (.keep, cursor.skip 1)
  else if cursor.sees '-' 0 then some (.strip, cursor.skip 1)
  else none

/-- A digit that is not zero. A zero is refused. -/
def scanIncrement (cursor : Cursor) : Option (Option Nat × Cursor) :=
  match (cursor.peek 0).bind Text.digitValue? with
  | none => some (none, cursor)
  | some 0 => none
  | some digit => some (some digit, cursor.skip 1)

/-- The marks behind the block indicator, in either order, and the rest of the line. -/
def scanBlockHeader (cursor : Cursor) : Option (BlockHeader × Cursor) := do
  let (header, cursor) ← match scanChomping cursor with
    | some (chomping, cursor) => do
        let (increment, cursor) ← scanIncrement cursor
        some (BlockHeader.mk chomping increment, cursor)
    | none => do
        let (increment, cursor) ← scanIncrement cursor
        match increment, scanChomping cursor with
        | some _, some (chomping, cursor) => some (BlockHeader.mk chomping increment, cursor)
        | _, _ => some (BlockHeader.mk .clip increment, cursor)
  some (header, ← cursor.restOfLine)

/-- Reads indentation and empty lines. The indentation may not yet be known, in
which case all spaces are indentation and the deepest line counts. -/
def scanBlockBreaks (indent : Option Nat) : Nat → Nat → Cursor → Option (List Char × Nat × Cursor)
  | 0, deepest, cursor => some ([], deepest, cursor)
  | fuel + 1, deepest, cursor =>
      let room := match indent with
        | some indent => indent - cursor.column
        | none => cursor.rest.length
      let cursor := cursor.skip ((cursor.rest.take room).takeWhile (· = ' ')).length
      let deepest := max deepest cursor.column
      if indent.all (cursor.column < ·) && cursor.sees '\t' 0 then none
      else if cursor.onBreak then do
        let (lineBreak, cursor) := cursor.takeBreak
        let (breaks, deepest, cursor) ← scanBlockBreaks indent fuel deepest cursor
        some (lineBreak ++ breaks, deepest, cursor)
      else some ([], deepest, cursor)

/-- What stands between two lines of a block: the break behind the first, whether
that line started with a blank, and the empty lines after it. -/
structure BlockGap where
  lineBreak : List Char
  afterBlank : Bool
  emptyLines : List Char

/-- The text between two lines; `beforeBlank` tells that the second starts with a
blank. -/
def BlockGap.text (isLiteral beforeBlank : Bool) (gap : BlockGap) : List Char :=
  if !isLiteral && gap.lineBreak = ['\n'] && !gap.afterBlank && !beforeBlank then
    (if gap.emptyLines.isEmpty then [' '] else []) ++ gap.emptyLines
  else gap.lineBreak ++ gap.emptyLines

/-- The text of a block whose lines are all read. -/
def BlockGap.ending (chomping : Chomping) (gap : BlockGap) : List Char :=
  match chomping with
  | .strip => []
  | .clip => gap.lineBreak
  | .keep => gap.lineBreak ++ gap.emptyLines

def scanBlockLines (isLiteral : Bool) (chomping : Chomping) (indent : Nat) :
    Nat → BlockGap → Cursor → Option (List Char × Cursor)
  | 0, gap, cursor => some (gap.ending chomping, cursor)
  | fuel + 1, gap, cursor =>
      if cursor.column = indent && !cursor.atEnd then do
        let startsBlank := cursor.onBlank
        let (line, cursor) := cursor.takeWhile fun char => !isBreak char
        let (lineBreak, cursor) := cursor.takeBreak
        let (emptyLines, _, cursor) ←
          scanBlockBreaks (some indent) (cursor.rest.length + 1) 0 cursor
        let next : BlockGap := ⟨lineBreak, startsBlank, emptyLines⟩
        let (more, cursor) ← scanBlockLines isLiteral chomping indent fuel next cursor
        some (gap.text isLiteral startsBlank ++ line ++ more, cursor)
      else some (gap.ending chomping, cursor)

/-- The block behind the indicator here. `parent` is the indentation of the
collection it stands in, if it stands in one. -/
def scanBlock (isLiteral : Bool) (parent : Option Nat) (cursor : Cursor) :
    Option (String × Cursor) := do
  let (header, cursor) ← scanBlockHeader (cursor.skip 1)
  let given := header.increment.map (parent.getD 0 + ·)
  let (emptyLines, deepest, cursor) ← scanBlockBreaks given (cursor.rest.length + 1) 0 cursor
  let least := max 1 ((parent.map (· + 1)).getD 0)
  let indent := given.getD (max deepest least)
  let (text, cursor) ← scanBlockLines isLiteral header.chomping indent (cursor.rest.length + 1)
    ⟨[], false, emptyLines⟩ cursor
  some (String.ofList text, cursor)

end FaultDrill.Yaml
