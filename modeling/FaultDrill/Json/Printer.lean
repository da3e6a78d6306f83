import FaultDrill.Decimal.Layout
import FaultDrill.Json.Quoted
import FaultDrill.Value.Basic

/-!
Writing JSON text, either on one line without spaces or with every item and
entry on a line of its own, indented by two spaces for each level.
-/

namespace FaultDrill.Json

/-- JSON has no spelling for a number that is not finite. -/
def numberText (value : Float) : String :=
  if value.isNaN || value.isInf then "null" else Layout.json.render value

/-- A value without inner values as text. -/
def scalarText : Value → List Char
  | .truth true => "true".toList
  | .truth false => "false".toList
  | .natural value => value.toNat.repr.toList
  | .negative value => value.repr.toList
  | .float value => (numberText value).toList
  | .text value => quoted value.toList
  | _ => "null".toList

/-- The text of a key: texts stand for themselves, other scalars for their text. -/
def keyText : Value → List Char
  | .text value => quoted value.toList
  | other => '"' :: (scalarText other ++ ['"'])

/-- How items are set apart. -/
inductive Spacing where
  | compact
  | indented
  deriving Repr, DecidableEq

/-- What stands before an item that is nested `level` deep. -/
def Spacing.before : Spacing → Nat → List Char
  | .compact, _ => []
  | .indented, level => '\n' :: List.replicate (2 * level) ' '

/-- What stands between a key and its value. -/
def Spacing.colon : Spacing → List Char
  | .compact => [':']
  | .indented => [':', ' ']

mutual

def render (spacing : Spacing) (level : Nat) : Value → List Char
  | .list [] => ['[', ']']
  | .list (item :: items) =>
      '[' :: (spacing.before (level + 1) ++ render spacing (level + 1) item ++
        renderItems spacing (level + 1) items ++ spacing.before level ++ [']'])
  | .record [] => ['\x7b', '\x7d']
  | .record ((key, value) :: entries) =>
      '\x7b' :: (spacing.before (level + 1) ++ keyText key ++ spacing.colon ++
        render spacing (level + 1) value ++ renderEntries spacing (level + 1) entries ++
        spacing.before level ++ ['\x7d'])
  | scalar => scalarText scalar

def renderItems (spacing : Spacing) (level : Nat) : List Value → List Char
  | [] => []
  | item :: items =>
      ',' :: (spacing.before level ++ render spacing level item ++ renderItems spacing level items)

def renderEntries (spacing : Spacing) (level : Nat) : List (Value × Value) → List Char
  | [] => []
  | (key, value) :: entries =>
      ',' :: (spacing.before level ++ keyText key ++ spacing.colon ++
        render spacing level value ++ renderEntries spacing level entries)

end

/-- The text of a value on one line. -/
def compact (value : Value) : String := String.ofList (render .compact 0 value)

/-- The text of a value over indented lines. -/
def pretty (value : Value) : String := String.ofList (render .indented 0 value)

end FaultDrill.Json
