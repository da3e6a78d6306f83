import FaultDrill.Yaml.Token.Basic

/-!
The tree a YAML document stands for. An alias names a node by number and is not
replaced by it, so a node may even contain itself.
-/

namespace FaultDrill.Yaml

/-- What may be written in front of a node. -/
structure Marks where
  /-- The number under which aliases know the node. -/
  anchor : Option Nat
  /-- The full text of the tag. -/
  tag : Option String
  deriving DecidableEq

inductive Node where
  | alias (target : Nat)
  | scalar (marks : Marks) (text : String) (style : ScalarStyle)
  | sequence (marks : Marks) (items : List Node)
  | mapping (marks : Marks) (entries : List (Node × Node))

namespace Marks

def none : Marks := ⟨.none, .none⟩

/-- The tag without its exclamation mark, if it is one of the document's own. -/
def localTag (marks : Marks) : Option String :=
  match marks.tag.map String.toList with
  | some ('!' :: rest) => some (String.ofList rest)
  | _ => .none

end Marks

namespace Node

/-- Stands wherever nothing was written. -/
def empty : Node := .scalar .none "" .plain

def marks : Node → Marks
  | .alias _ => .none
  | .scalar marks _ _ => marks
  | .sequence marks _ => marks
  | .mapping marks _ => marks

mutual

/-- The nodes within a node that aliases can name, itself included, in the order
they start. -/
def anchored : Node → List (Nat × Node)
  | .alias _ => []
  | .scalar marks text style => named marks (.scalar marks text style)
  | .sequence marks items => named marks (.sequence marks items) ++ anchoredItems items
  | .mapping marks entries => named marks (.mapping marks entries) ++ anchoredEntries entries

def anchoredItems : List Node → List (Nat × Node)
  | [] => []
  | item :: rest => item.anchored ++ anchoredItems rest

def anchoredEntries : List (Node × Node) → List (Nat × Node)
  | [] => []
  | (key, value) :: rest => key.anchored ++ value.anchored ++ anchoredEntries rest

def named (marks : Marks) (node : Node) : List (Nat × Node) :=
  match marks.anchor with
  | some anchor => [(anchor, node)]
  | .none => []

end

mutual

/-- How many steps it takes to write a node down: one for a scalar or an alias,
and for a collection one at its start and one at its end. -/
def steps : Node → Nat
  | .sequence _ items => 2 + itemSteps items
  | .mapping _ entries => 2 + entrySteps entries
  | _ => 1

def itemSteps : List Node → Nat
  | [] => 0
  | item :: rest => item.steps + itemSteps rest

def entrySteps : List (Node × Node) → Nat
  | [] => 0
  | (key, value) :: rest => key.steps + value.steps + entrySteps rest

end

end Node

end FaultDrill.Yaml
