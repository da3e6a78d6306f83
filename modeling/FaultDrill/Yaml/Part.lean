import FaultDrill.Value.Members
import FaultDrill.Yaml.Document
import FaultDrill.Yaml.Plain

/-!
Reading structures from YAML. What a scalar stands for depends on what is wanted:
where a text is wanted, even `5` is one. Only where nothing is known in advance a
plain scalar is judged by its spelling. Aliases are followed when a part is read,
so that parts nobody asks for may be anything. Two limits keep aliases in check:
how deep collections are nested, and how many aliases are followed.
-/

namespace FaultDrill.Yaml

/-- The node each alias stands for. -/
abbrev Targets := List (Nat × Node)

/-- A number stands for the last node that has it. -/
def Targets.ofRoot (root : Node) : Targets := root.anchored.reverse

/-- The node that an alias stands for; other nodes stand for themselves. -/
def Targets.follow (targets : Targets) : Node → Option Node
  | .alias target => targets.lookup target
  | node => some node

/-- A node of a document, with as many levels of nesting left as `room`, and with
`allowance` aliases to be followed at most. -/
structure Part where
  targets : Targets
  allowance : Nat
  room : Nat
  node : Node

namespace Part

/-- Collections may be nested this deep. -/
def deepest : Nat := 128

/-- The whole of a document. It may follow a hundred times as many aliases as it
takes steps to write it. -/
def ofRoot (root : Node) : Part where
  targets := .ofRoot root
  allowance := 100 * root.steps
  room := deepest
  node := root

def ofText? (text : String) : Option Part := (root? text).map ofRoot

def followed? (part : Part) : Option Node := part.targets.follow part.node

/-- A part within a collection, if there is room for another level. -/
def inner? (part : Part) (node : Node) : Option Part :=
  if part.room = 0 then none else some { part with room := part.room - 1, node := node }

/-! What is wanted is known -/

def text? (part : Part) : Option String :=
  match part.followed? with
  | some (.scalar _ text _) => some text
  | _ => none

/-- The text of a scalar that can stand for a number or a truth value: a plain
one, or a literal block tagged as such. -/
def typedText? (tag : String) (part : Part) : Option String :=
  match part.followed? with
  | some (.scalar _ text .plain) => some text
  | some (.scalar marks text .literal) => if marks.tag = some tag then some text else none
  | _ => none

def truthTag : String := "tag:yaml.org,2002:bool"
def integerTag : String := "tag:yaml.org,2002:int"
def floatTag : String := "tag:yaml.org,2002:float"
def nullTag : String := "tag:yaml.org,2002:null"

def truth? (part : Part) : Option Bool := (part.typedText? truthTag).bind Plain.truth?

def natural? (part : Part) : Option UInt64 := (part.typedText? integerTag).bind Plain.natural?

def float? (part : Part) : Option Float := (part.typedText? floatTag).bind Plain.float?

/-- An empty plain scalar, which also serves as a collection of nothing. -/
def isEmpty : Node → Bool
  | .scalar _ "" .plain => true
  | _ => false

def list? (part : Part) : Option (List Part) := do
  match ← part.followed? with
  | .sequence _ items => if part.room = 0 then none else items.mapM part.inner?
  | node => if isEmpty node then some [] else none

def members? (names : List String) (part : Part) : Option (List (String × Part)) := do
  match ← part.followed? with
  | .mapping _ entries =>
      if part.room = 0 then none
      else
        let nameOf (key : Node) : Option (Option String) :=
          ({ part with node := key }).text?.map fun name => if name ∈ names then some name else none
        (← wanted nameOf entries).mapM fun (name, node) =>
          (part.inner? node).map fun member => (name, member)
  | node => if isEmpty node then some [] else none

/-- Nothing is written, or a plain scalar that spells nothing. -/
def isNull (part : Part) : Bool :=
  match part.followed? with
  | some (.scalar marks text .plain) =>
      if marks.tag.isNone then text.isEmpty || Plain.isNull text
      else marks.tag = some nullTag && Plain.isNull text
  | _ => false

/-- The name of a choice is a scalar, or a tag on an empty one. -/
def choice? (part : Part) : Option String := do
  match ← part.followed? with
  | .scalar marks text style =>
      match marks.localTag with
      | none => some text
      | some name =>
          if style = .plain && (text.isEmpty || Plain.isNull text) then some name else none
  | _ => none

/-! What is wanted is not known -/

/-- Counts down the aliases that may still be followed. -/
abbrev Spending := StateT Nat Option

def follow (targets : Targets) (node : Node) : Spending Node := do
  if let .alias _ := node then
    if (← get) = 0 then failure
    modify (· - 1)
  targets.follow node

/-- A scalar by its tag, by its spelling if it is plain and has none, and as a
text otherwise. Tags of the document's own are not understood. -/
def scalarValue? (marks : Marks) (text : String) (style : ScalarStyle) : Option Value :=
  if marks.localTag.isSome then none
  else
    match marks.tag with
    | none => some (if style = .plain then Plain.value text else .text text)
    | some tag =>
        if tag = truthTag then (Plain.truth? text).map .truth
        else if tag = integerTag then Plain.integerValue? text
        else if tag = floatTag then (Plain.float? text).map .float
        else if tag = nullTag then (if Plain.isNull text then some .null else none)
        else some (.text text)

/-- The value of a node with `room` levels of nesting left. -/
def settle (targets : Targets) : Nat → Node → Spending Value
  | 0, node => do
      match ← follow targets node with
      | .scalar marks text style => scalarValue? marks text style
      | _ => failure
  | room + 1, node => do
      match ← follow targets node with
      | .scalar marks text style => scalarValue? marks text style
      | .sequence marks items =>
          if marks.localTag.isSome then failure
          return .list (← items.mapM (settle targets room))
      | .mapping marks entries =>
          if marks.localTag.isSome then failure
          return .record (← entries.mapM fun (key, value) => do
            return (← settle targets room key, ← settle targets room value))
      | .alias _ => failure

/-- The text of a scalar. -/
def settleText (targets : Targets) (node : Node) : Spending String := do
  match ← follow targets node with
  | .scalar _ text _ => return text
  | _ => failure

/-- The entries of a mapping without those whose key is the tag, and the texts
that those hold. -/
def settleVariant (targets : Targets) (room : Nat) (tag : String) :
    List (Node × Node) → Spending (List String × List (Value × Value))
  | [] => return ([], [])
  | (key, value) :: rest => do
      let key ← settle targets room key
      if Value.isText tag key then
        let kind ← settleText targets value
        let (kinds, entries) ← settleVariant targets room tag rest
        return (kind :: kinds, entries)
      else
        let value ← settle targets room value
        let (kinds, entries) ← settleVariant targets room tag rest
        return (kinds, (key, value) :: entries)

def readVariant (tag : String) (part : Part) : Spending (String × Value) := do
  let node ← follow part.targets part.node
  if part.room = 0 || node.marks.localTag.isSome then failure
  let room := part.room - 1
  match node with
  | .mapping _ entries =>
      match ← settleVariant part.targets room tag entries with
      | ([kind], entries) => return (kind, .record entries)
      | _ => failure
  | .sequence _ (kind :: items) =>
      return (← settleText part.targets kind, .list (← items.mapM (settle part.targets room)))
  | _ => failure

def variant? (tag : String) (part : Part) : Option (String × Value) := do
  let ((kind, value), _) ← (readVariant tag part).run part.allowance
  if value.isUsable then some (kind, value) else none

end Part

instance : Source Part where
  members? := Part.members?
  list? := Part.list?
  text? := Part.text?
  natural? := Part.natural?
  float? := Part.float?
  truth? := Part.truth?
  isNull := Part.isNull
  variant? := Part.variant?
  choice? := Part.choice?

end FaultDrill.Yaml
