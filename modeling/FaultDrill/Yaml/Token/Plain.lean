import FaultDrill.Yaml.Token.Folding

/-!
Plain scalars: text without quotes. It ends at a comment, at a colon with white
space behind it, at a bracket or comma inside brackets, at a document marker,
and where a line is indented too little.
-/

namespace FaultDrill.Yaml

/-- Punctuation that ends a plain scalar inside brackets. -/
def endsFlowScalar (char : Char) : Bool :=
  char = ',' || char = '[' || char = ']' || char = '\x7b' || char = '\x7d'

/-- A colon inside brackets with punctuation behind it, which is refused. -/
def onStrayColon (cursor : Cursor) : Bool :=
  cursor.sees ':' 0 && (cursor.peek 1).any fun next => endsFlowScalar next || next = '?'

def endsPlain (inFlow : Bool) (cursor : Cursor) : Bool :=
  cursor.blankOrEnd 0 || (cursor.sees ':' 0 && cursor.blankOrEnd 1) ||
    (inFlow && (cursor.peek 0).any endsFlowScalar)

/-- The characters up to white space or the end of the scalar. -/
def scanPlainWord (inFlow : Bool) : Nat → Cursor → Option (List Char × Cursor)
  | 0, cursor => some ([], cursor)
  | fuel + 1, cursor =>
      if inFlow && !cursor.blankOrEnd 0 && onStrayColon cursor then none
      else if endsPlain inFlow cursor then some ([], cursor)
      else
        match cursor.rest with
        | [] => some ([], cursor)
        | char :: _ => do
            let (word, cursor) ← scanPlainWord inFlow fuel (cursor.skip 1)
            some (char :: word, cursor)

/-- Words and the gaps between them. `gap` is the white space in front, which
counts only if a word follows. The flag tells whether the scalar ended on a later
line than its last word. -/
def scanPlainWords (inFlow : Bool) (margin : Nat) :
    Nat → Gap → Cursor → Option (List Char × Bool × Cursor)
  | 0, gap, cursor => some ([], gap.leftLine, cursor)
  | fuel + 1, gap, cursor =>
      if cursor.onMarker || cursor.sees '#' 0 then some ([], gap.leftLine, cursor)
      else do
        let (word, cursor) ← scanPlainWord inFlow (cursor.rest.length + 1) cursor
        let (before, gap) := if word.isEmpty then ([], gap) else (gap.text, Gap.empty)
        if cursor.onBlank || cursor.onBreak then
          let (gap, cursor) ← gap.scan margin (cursor.rest.length + 1) cursor
          if !inFlow && cursor.column < margin then some (before ++ word, gap.leftLine, cursor)
          else
            let (more, leftLine, cursor) ← scanPlainWords inFlow margin fuel gap cursor
            some (before ++ word ++ more, leftLine, cursor)
        else some (before ++ word, gap.leftLine, cursor)

/-- A plain scalar, whether it ended on a later line, and the place behind it. -/
def scanPlain (inFlow : Bool) (margin : Nat) (cursor : Cursor) :
    Option (String × Bool × Cursor) := do
  let (text, leftLine, cursor) ←
    scanPlainWords inFlow margin (cursor.rest.length + 1) Gap.empty cursor
  some (String.ofList text, leftLine, cursor)

end FaultDrill.Yaml
