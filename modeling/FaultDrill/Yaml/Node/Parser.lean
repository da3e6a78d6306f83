import FaultDrill.Yaml.Node.Basic

/-!
From tokens to the node of a document. A node is an alias, a scalar, or a
collection that is bracketed or laid out by indentation. Where the grammar leaves
room for a node that is not there, an empty plain scalar stands.
-/

namespace FaultDrill.Yaml

/-- What the tags of a document abbreviate. -/
abbrev Handles := List (String × String)

/-- The handles every document has unless it defines them otherwise. -/
def Handles.standard : Handles := [("!", "!"), ("!!", "tag:yaml.org,2002:")]

/-- Reading nodes uses up tokens, and gives every anchored node a number. -/
structure Progress where
  tokens : List Token
  /-- The number each anchor name stands for by now. -/
  anchors : List (String × Nat)

abbrev NodeReader := StateT Progress Option

namespace NodeReader

/-- The next token, which stays. -/
def peek : NodeReader (Option Token) := do
  return (← get).tokens.head?

/-- Drops the next token. -/
def drop : NodeReader Unit :=
  modify fun progress => { progress with tokens := progress.tokens.drop 1 }

/-- The number an alias stands for. -/
def resolve (name : String) : NodeReader Nat := do
  (← get).anchors.lookup name

/-- Numbers the node that starts here. The number counts the names seen before,
so a name that is used again does not raise it. -/
def register (name : String) : NodeReader Nat := do
  let progress ← get
  let number := progress.anchors.length
  set { progress with
    anchors := (name, number) :: progress.anchors.filter fun anchor => anchor.1 != name }
  return number

def readAnchor : NodeReader (Option Nat) := do
  match ← peek with
  | some (.anchor name) =>
      drop
      return some (← register name)
  | _ => return none

/-- A tag without a handle is complete. -/
def readTag (handles : Handles) : NodeReader (Option String) := do
  match ← peek with
  | some (.tag "" suffix) =>
      drop
      return some suffix
  | some (.tag handle suffix) =>
      drop
      return some ((← handles.lookup handle) ++ suffix)
  | _ => return none

/-- An anchor and a tag, in either order. -/
def readMarks (handles : Handles) : NodeReader Marks := do
  match ← readAnchor with
  | some anchor => return ⟨some anchor, ← readTag handles⟩
  | none =>
      let tag ← readTag handles
      match tag with
      | some tag => return ⟨← readAnchor, some tag⟩
      | none => return .none

/-- Where a node may stand. -/
inductive Place where
  /-- Between brackets. -/
  | flow
  /-- Where indentation counts. -/
  | block
  /-- In a mapping laid out by indentation, where a sequence need not be indented
  further. -/
  | blockMember
  deriving DecidableEq

/-- The lone exclamation mark says of a scalar what goes without saying. -/
def scalarMarks (marks : Marks) : Marks :=
  if marks.tag = some "!" then { marks with tag := none } else marks

mutual

def readNode (handles : Handles) : Nat → Place → NodeReader Node
  | 0, _ => failure
  | fuel + 1, place => do
      if let some (.alias name) ← peek then
        drop
        return .alias (← resolve name)
      let marks ← readMarks handles
      match ← peek, place with
      | some .blockEntry, .blockMember =>
          return .sequence marks (← readLooseItems handles fuel)
      | some (.scalar text style), _ =>
          drop
          return .scalar (scalarMarks marks) text style
      | some .flowSequenceStart, _ =>
          drop
          return .sequence marks (← readFlowItems handles fuel true)
      | some .flowMappingStart, _ =>
          drop
          return .mapping marks (← readFlowEntries handles fuel true)
      | token, place =>
          if token = some .blockSequenceStart && place ≠ .flow then
            drop
            return .sequence marks (← readBlockItems handles fuel)
          else if token = some .blockMappingStart && place ≠ .flow then
            drop
            return .mapping marks (← readBlockEntries handles fuel)
          else if marks = .none then failure
          else return .scalar marks "" .plain

/-- A node, or an empty one in front of certain tokens. -/
def readNodeBefore (handles : Handles) (stops : List Token) : Nat → Place → NodeReader Node
  | 0, _ => failure
  | fuel + 1, place => do
      match ← peek with
      | some token => if token ∈ stops then return .empty else readNode handles fuel place
      | none => failure

/-- The items of an indented sequence and its end. -/
def readBlockItems (handles : Handles) : Nat → NodeReader (List Node)
  | 0 => failure
  | fuel + 1 => do
      match ← peek with
      | some .blockEntry =>
          drop
          let item ← readNodeBefore handles [.blockEntry, .blockEnd] fuel .block
          return item :: (← readBlockItems handles fuel)
      | some .blockEnd =>
          drop
          return []
      | _ => failure

/-- The items of a sequence that ends where the mapping around it goes on. -/
def readLooseItems (handles : Handles) : Nat → NodeReader (List Node)
  | 0 => failure
  | fuel + 1 => do
      match ← peek with
      | some .blockEntry =>
          drop
          let item ← readNodeBefore handles [.blockEntry, .key, .value, .blockEnd] fuel .block
          return item :: (← readLooseItems handles fuel)
      | _ => return []

def readBlockEntries (handles : Handles) : Nat → NodeReader (List (Node × Node))
  | 0 => failure
  | fuel + 1 => do
      let stops := [Token.key, .value, .blockEnd]
      match ← peek with
      | some .key =>
          drop
          let key ← readNodeBefore handles stops fuel .blockMember
          let value ← readValueBefore handles stops fuel .blockMember
          return (key, value) :: (← readBlockEntries handles fuel)
      | some .blockEnd =>
          drop
          return []
      | _ => failure

/-- The value of an entry, empty if there is no colon. -/
def readValueBefore (handles : Handles) (stops : List Token) : Nat → Place → NodeReader Node
  | 0, _ => failure
  | fuel + 1, place => do
      match ← peek with
      | some .value =>
          drop
          readNodeBefore handles stops fuel place
      | _ => return .empty

/-- The items of a bracketed sequence and its end. An item may be a mapping of
one entry; if its key is missing, the token in its place is passed over. -/
def readFlowItems (handles : Handles) : Nat → Bool → NodeReader (List Node)
  | 0, _ => failure
  | fuel + 1, isFirst => do
      if (← peek) = some .flowSequenceEnd then
        drop
        return []
      if !isFirst then
        if (← peek) ≠ some .flowEntry then failure
        drop
      match ← peek with
      | some .flowSequenceEnd =>
          drop
          return []
      | some .key =>
          drop
          let key ← match ← peek with
            | some .value | some .flowEntry | some .flowSequenceEnd =>
                drop
                pure Node.empty
            | _ => readNode handles fuel .flow
          let value ← readValueBefore handles [.flowEntry, .flowSequenceEnd] fuel .flow
          return .mapping .none [(key, value)] :: (← readFlowItems handles fuel false)
      | _ =>
          let item ← readNode handles fuel .flow
          return item :: (← readFlowItems handles fuel false)

/-- The entries of a bracketed mapping and its end. A node without a colon is a
key with an empty value. -/
def readFlowEntries (handles : Handles) : Nat → Bool → NodeReader (List (Node × Node))
  | 0, _ => failure
  | fuel + 1, isFirst => do
      if (← peek) = some .flowMappingEnd then
        drop
        return []
      if !isFirst then
        if (← peek) ≠ some .flowEntry then failure
        drop
      match ← peek with
      | some .flowMappingEnd =>
          drop
          return []
      | some .key =>
          drop
          let key ← readNodeBefore handles [.value, .flowEntry, .flowMappingEnd] fuel .flow
          let value ← readValueBefore handles [.flowEntry, .flowMappingEnd] fuel .flow
          return (key, value) :: (← readFlowEntries handles fuel false)
      | _ =>
          let key ← readNode handles fuel .flow
          return (key, .empty) :: (← readFlowEntries handles fuel false)

end

end NodeReader

end FaultDrill.Yaml
