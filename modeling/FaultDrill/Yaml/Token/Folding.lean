import FaultDrill.Yaml.Cursor

/-!
White space inside a scalar that runs over several lines. Blanks within a line
are kept; blanks around line breaks are dropped, a single line break becomes a
space, and of several the first is dropped.
-/

namespace FaultDrill.Yaml

/-- The white space between two pieces of a scalar. -/
structure Gap where
  blanks : List Char
  /-- The first line break, if the scalar left its line. -/
  firstBreak : Option (List Char)
  laterBreaks : List Char

namespace Gap

def empty : Gap := ⟨[], none, []⟩

/-- The gap behind a line break that was escaped. -/
def escaped : Gap := ⟨[], some [], []⟩

def leftLine (gap : Gap) : Bool := gap.firstBreak.isSome

/-- What a gap contributes to the text. -/
def text (gap : Gap) : List Char :=
  match gap.firstBreak with
  | none => gap.blanks
  | some ['\n'] => if gap.laterBreaks.isEmpty then [' '] else gap.laterBreaks
  | some first => first ++ gap.laterBreaks

example : Gap.text ⟨[' '], none, []⟩ = [' '] := rfl
example : Gap.text ⟨[], some ['\n'], []⟩ = [' '] := by decide
example : Gap.text ⟨[], some ['\n'], ['\n']⟩ = ['\n'] := by decide

/-- Reads on through blanks and line breaks. A tab may not stand in for the
indentation of a new line. -/
def scan (margin : Nat) : Nat → Gap → Cursor → Option (Gap × Cursor)
  | 0, gap, cursor => some (gap, cursor)
  | fuel + 1, gap, cursor =>
      if cursor.onBlank then
        if gap.leftLine then
          if cursor.column < margin && cursor.sees '\t' 0 then none
          else scan margin fuel gap (cursor.skip 1)
        else scan margin fuel { gap with blanks := gap.blanks ++ cursor.rest.take 1 } (cursor.skip 1)
      else if cursor.onBreak then
        let (lineBreak, next) := cursor.takeBreak
        match gap.firstBreak with
        | none => scan margin fuel ⟨[], some lineBreak, []⟩ next
        | some _ => scan margin fuel { gap with laterBreaks := gap.laterBreaks ++ lineBreak } next
      else some (gap, cursor)

end Gap

end FaultDrill.Yaml
