import FaultDrill.Proofs.Value.Members
import FaultDrill.Yaml.Part

/-!
Members of a structure by their names. A reader of structures passes once through the
entries and keeps those it wants; here a member is looked up instead, in any order and
among entries nobody wants.
-/

namespace FaultDrill

namespace Yaml.Part

/-! ## Members of a part -/

/-- What a key names among some names. -/
def nameOf (names : List String) (part : Part) (key : Node) : Option (Option String) :=
  ({ part with node := key }).text?.map fun name => if name ∈ names then some name else none

/-- The part under a name. -/
def member? (name : String) (part : Part) : Option Part := do
  match ← part.followed? with
  | .mapping _ entries =>
      let entry ← entries.find? fun entry => ({ part with node := entry.1 }).text? == some name
      part.inner? entry.2
  | _ => none

/-- A mapping whose keys are texts and give no known name twice, or nothing at all. -/
def isStructure (names : List String) (part : Part) : Bool :=
  match part.followed? with
  | some (.mapping _ entries) => isTidy (part.nameOf names) entries
  | some node => isEmpty node
  | none => false

variable {names : List String} {part : Part}

theorem nameOf_beq {name : String} (known : name ∈ names) (key : Node) :
    (part.nameOf names key == some (some name)) =
      (({ part with node := key }).text? == some name) := by
  rw [nameOf]
  cases text : ({ part with node := key } : Part).text? with
  | none => rfl
  | some found =>
      by_cases same : found = name
      · simp [same, known]
      · by_cases mem : found ∈ names <;> simp [same, mem]

theorem inner?_of_room (room : part.room ≠ 0) (node : Node) :
    part.inner? node = some { part with room := part.room - 1, node := node } := by
  rw [inner?, if_neg room]

section Mapping

variable {marks : Marks} {entries : List (Node × Node)}

/-- The members of a mapping are parts with one level of nesting less. -/
theorem members?_mapping (room : part.room ≠ 0)
    (mapping : part.followed? = some (.mapping marks entries)) :
    part.members? names =
      (wanted (part.nameOf names) entries).map fun members =>
        members.map fun member =>
          (member.1, { part with room := part.room - 1, node := member.2 }) := by
  rw [members?, mapping]
  simp only [Option.bind_eq_bind, Option.bind_some, if_neg room, inner?_of_room room,
    Option.map_some]
  change (wanted (part.nameOf names) entries).bind _ = _
  cases wanted (part.nameOf names) entries with
  | none => rfl
  | some members => exact List.mapM_pure

theorem isStructure_mapping (mapping : part.followed? = some (.mapping marks entries)) :
    part.isStructure names = isTidy (part.nameOf names) entries := by
  rw [isStructure, mapping]

theorem member?_mapping (room : part.room ≠ 0) {name : String} (known : name ∈ names)
    (mapping : part.followed? = some (.mapping marks entries)) :
    part.member? name =
      ((named (part.nameOf names) entries).lookup name).map fun node =>
        { part with room := part.room - 1, node := node } := by
  rw [member?, mapping, lookup_named]
  simp only [Option.bind_eq_bind, Option.bind_some, inner?_of_room room, nameOf_beq known]
  cases entries.find? fun entry => ({ part with node := entry.1 } : Part).text? == some name <;> rfl

end Mapping

section Other

variable (other : ∀ marks entries, part.followed? ≠ some (.mapping marks entries))

include other

theorem members?_other :
    part.members? names = if part.isStructure names then some [] else none := by
  rw [members?, isStructure]
  cases followed : part.followed? with
  | none => rfl
  | some node =>
      cases node with
      | mapping marks entries => exact absurd followed (other marks entries)
      | _ => rfl

theorem member?_other (name : String) : part.member? name = none := by
  rw [member?]
  cases followed : part.followed? with
  | none => rfl
  | some node =>
      cases node with
      | mapping marks entries => exact absurd followed (other marks entries)
      | _ => rfl

end Other

/-- Reading members in one pass finds what looking each of them up finds. -/
theorem members?_spec (names : List String) (room : part.room ≠ 0) :
    if part.isStructure names then
      ∃ members, part.members? names = some members ∧
        ∀ name ∈ names, members.lookup name = part.member? name
    else part.members? names = none := by
  by_cases mapping : ∃ marks entries, part.followed? = some (.mapping marks entries)
  · obtain ⟨marks, entries, mapping⟩ := mapping
    rw [members?_mapping room mapping, isStructure_mapping mapping, wanted_eq]
    cases isTidy (part.nameOf names) entries with
    | false => rfl
    | true =>
        refine ⟨_, rfl, fun name known => ?_⟩
        rw [member?_mapping room known mapping]
        exact lookup_map ..
  · have other : ∀ marks entries, part.followed? ≠ some (.mapping marks entries) :=
      fun marks entries same => mapping ⟨marks, entries, same⟩
    rw [members?_other other]
    cases part.isStructure names with
    | false => rfl
    | true => exact ⟨[], rfl, fun name _ => (member?_other other name).symm⟩

theorem room_of_member? {name : String} {member : Part} (found : part.member? name = some member) :
    member.room = part.room - 1 := by
  by_cases mapping : ∃ marks entries, part.followed? = some (.mapping marks entries)
  · obtain ⟨marks, entries, mapping⟩ := mapping
    simp only [member?, mapping, Option.bind_eq_bind, Option.bind_some,
      Option.bind_eq_some_iff] at found
    obtain ⟨entry, _, inner⟩ := found
    unfold inner? at inner
    split at inner
    · cases inner
    · cases inner
      rfl
  · rw [member?_other fun marks entries same => mapping ⟨marks, entries, same⟩] at found
    cases found

end Yaml.Part

end FaultDrill
