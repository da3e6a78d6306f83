import FaultDrill.Duration
import FaultDrill.Value.Basic

/-!
Structures in data. A structure has members with fixed names in a fixed order. A
record gives them by name, in any order and among entries nobody asked for; a
list gives them by position.
-/

namespace FaultDrill

/-- The entries that have one of the names wanted. `nameOf` says what a key names,
and whether it may be a key at all. No wanted name may come twice. -/
def wanted {key data : Type} (nameOf : key → Option (Option String)) :
    List (key × data) → Option (List (String × data))
  | [] => some []
  | (key, value) :: rest => do
      let members ← wanted nameOf rest
      match ← nameOf key with
      | none => some members
      | some name =>
          if (members.lookup name).isSome then none else some ((name, value) :: members)

namespace Value

/-- The name a key stands for: itself, or for a number the name at that position.
Numbers beyond the names, as well as other texts, name nothing that is wanted. -/
def keyName? (names : List String) : Value → Option (Option String)
  | .text name => some (if name ∈ names then some name else none)
  | .natural position => some names[position.toNat]?
  | _ => none

/-- The members of a structure. A list may be shorter than the names, not longer. -/
def members? (names : List String) : Value → Option (List (String × Value))
  | .record entries => wanted (keyName? names) entries
  | .list items => if items.length ≤ names.length then some (names.zip items) else none
  | _ => none

def isText (text : String) : Value → Bool
  | .text value => value == text
  | _ => false

/-- A value that names its own kind, in a record under `tag` and in a list as the
first item: the kind, and the value without it. The kind of a record may stand
anywhere, but only once. All of the value has to be usable. -/
def variant? (tag : String) (value : Value) : Option (String × Value) :=
  if value.isUsable then
    match value with
    | .record entries =>
        match entries.filter fun entry => isText tag entry.1 with
        | [(_, .text kind)] => some (kind, .record (entries.filter fun entry => !isText tag entry.1))
        | _ => none
    | .list (.text kind :: items) => some (kind, .list items)
    | _ => none
  else none

end Value

/-- Data that structures can be read from, whatever its notation. -/
class Source (data : Type) where
  /-- The members of a structure with these names. -/
  members? : List String → data → Option (List (String × data))
  list? : data → Option (List data)
  text? : data → Option String
  natural? : data → Option UInt64
  float? : data → Option Float
  truth? : data → Option Bool
  /-- Nothing was given where something optional could have been. -/
  isNull : data → Bool
  /-- The kind that data names under a tag, and the rest as a value of its own. -/
  variant? : String → data → Option (String × Value)
  /-- The name of one of several choices. -/
  choice? : data → Option String

instance : Source Value where
  members? := Value.members?
  list? := Value.list?
  text? := Value.text?
  natural? := Value.natural?
  float? := Value.float?
  truth? := Value.truth?
  isNull value := value matches .null
  variant? := Value.variant?
  choice? := Value.text?

namespace Source

variable {data : Type} [Source data] {α : Type}

/-- A member that has to be there. -/
def required (read : data → Option α) (name : String) (members : List (String × data)) :
    Option α :=
  (members.lookup name).bind read

/-- A member that may be left out. -/
def optional (read : data → Option α) (default : α) (name : String)
    (members : List (String × data)) : Option α :=
  match members.lookup name with
  | some member => read member
  | none => some default

/-- A member that may be left out or given as nothing. -/
def nullable (read : data → Option α) (name : String) (members : List (String × data)) :
    Option (Option α) :=
  match members.lookup name with
  | some member => if isNull member then some none else (read member).map some
  | none => some none

/-- A length of time in whole seconds. -/
def seconds? (source : data) : Option Duration := (natural? source).map Duration.ofSeconds

/-- A list all of whose items can be read. -/
def items (read : data → Option α) (source : data) : Option (List α) := do
  (← list? source).mapM read

end Source

end FaultDrill
