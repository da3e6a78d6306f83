/-!
Values as data files hold them, before anything is known about what they mean:
numbers, texts, lists and records. A record keeps its entries in order, and
keeps a key that comes twice.
-/

namespace FaultDrill

inductive Value where
  | null
  | truth (value : Bool)
  | natural (value : UInt64)
  /-- A whole number below zero. -/
  | negative (value : Int)
  | float (value : Float)
  | text (value : String)
  | list (items : List Value)
  | record (entries : List (Value × Value))
  /-- Something well written that stands for no value, such as a number that is
  too large. It can be passed over but not used. -/
  | unusable
  deriving Inhabited, Repr

namespace Value

/-- A record whose keys are texts. -/
def ofFields (fields : List (String × Value)) : Value :=
  .record (fields.map fun (name, value) => (.text name, value))

mutual

/-- Nothing in the value is unusable. -/
def isUsable : Value → Bool
  | .unusable => false
  | .list items => itemsUsable items
  | .record entries => entriesUsable entries
  | _ => true

def itemsUsable : List Value → Bool
  | [] => true
  | item :: rest => item.isUsable && itemsUsable rest

def entriesUsable : List (Value × Value) → Bool
  | [] => true
  | (key, value) :: rest => key.isUsable && value.isUsable && entriesUsable rest

end

/-! What a value is when a certain kind is wanted. -/

def text? : Value → Option String
  | .text value => some value
  | _ => none

def truth? : Value → Option Bool
  | .truth value => some value
  | _ => none

def natural? : Value → Option UInt64
  | .natural value => some value
  | _ => none

/-- Whole numbers are numbers too. -/
def float? : Value → Option Float
  | .natural value => some (Float.ofScientific value.toNat false 0)
  | .negative value => some (-(Float.ofScientific value.natAbs false 0))
  | .float value => some value
  | _ => none

def list? : Value → Option (List Value)
  | .list items => some items
  | _ => none

end Value

end FaultDrill
