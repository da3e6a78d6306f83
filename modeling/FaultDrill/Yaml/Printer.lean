import FaultDrill.Decimal.Layout
import FaultDrill.Json.Quoted
import FaultDrill.Yaml.Plain

/-!
Writing YAML. Records and lists are laid out by indentation, two spaces for each
level of records; the items of a list in a record are not indented further. A
text is plain where it stays a text when it is read, and quoted elsewhere.
-/

namespace FaultDrill.Yaml

/-- Characters that are safe anywhere in a plain scalar. -/
def isSafeInside (char : Char) : Bool :=
  char.isAlphanum || "_-./ +@%()".toList.contains char || 0xA0 < char.toNat

def isSafeAtStart (char : Char) : Bool :=
  char.isAlphanum || char = '_' || char = '/' || 0xA0 < char.toNat

/-- A colon is harmless unless a blank or the end follows. -/
def isPlainTail : List Char → Bool
  | [] => true
  | ' ' :: [] => false
  | ':' :: [] => false
  | ':' :: ' ' :: _ => false
  | ':' :: rest => isPlainTail rest
  | char :: rest => isSafeInside char && isPlainTail rest

def isPlainText (text : String) : Bool :=
  text.toList.head?.any isSafeAtStart && isPlainTail text.toList &&
    (Plain.value text matches .text _)

/-- Between single quotes a quote is written twice. -/
def singleQuoted (text : List Char) : List Char :=
  let quote := Char.ofNat 39
  quote :: (text.flatMap fun char => if char = quote then [quote, quote] else [char]) ++ [quote]

def textScalar (text : String) : List Char :=
  if isPlainText text then text.toList
  else if text.toList.all fun char => 0x20 ≤ char.toNat && char.toNat ≤ 0x7E then
    singleQuoted text.toList
  else Json.quoted text.toList

def scalarText : Value → List Char
  | .truth true => "true".toList
  | .truth false => "false".toList
  | .natural value => value.toNat.repr.toList
  | .negative value => value.repr.toList
  | .float value => (Layout.yaml.render value).toList
  | .text value => textScalar value
  | _ => "null".toList

/-- A line break and the indentation of the next line. -/
def newLine (indent : Nat) : List Char := '\n' :: List.replicate indent ' '

mutual

/-- A value behind a colon or a dash. What does not fit on that line goes on below
it; a list is indented as far as `listIndent` says, a record as far as `indent`. -/
def renderValue (listIndent indent : Nat) : Value → List Char
  | .list [] => " []".toList
  | .list items => renderItems listIndent items
  | .record [] => " \x7b\x7d".toList
  | .record entries => newLine indent ++ renderEntries indent entries
  | scalar => ' ' :: scalarText scalar

/-- Items, each on a line of its own behind a dash. -/
def renderItems (indent : Nat) : List Value → List Char
  | [] => []
  | .record (entry :: entries) :: rest =>
      newLine indent ++ ['-', ' '] ++ renderEntries (indent + 2) (entry :: entries) ++
        renderItems indent rest
  | item :: rest =>
      newLine indent ++ ['-'] ++ renderValue (indent + 2) (indent + 2) item ++
        renderItems indent rest

/-- Entries, the first of which goes on where the cursor is. -/
def renderEntries (indent : Nat) : List (Value × Value) → List Char
  | [] => []
  | [(key, value)] => scalarText key ++ ':' :: renderValue indent (indent + 2) value
  | (key, value) :: rest =>
      scalarText key ++ ':' :: renderValue indent (indent + 2) value ++ newLine indent ++
        renderEntries indent rest

end

/-- A record as a document. -/
def document (value : Value) : String :=
  match value with
  | .record (entry :: entries) => String.ofList (renderEntries 0 (entry :: entries) ++ ['\n'])
  | value => String.ofList ((renderValue 0 0 value).dropWhile (fun char => char = ' ' || char = '\n') ++ ['\n'])

end FaultDrill.Yaml
