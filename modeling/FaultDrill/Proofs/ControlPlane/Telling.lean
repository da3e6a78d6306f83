import FaultDrill.ControlPlane.Command
import FaultDrill.Proofs.Json.Telling

/-!
How a response tells the name of a toxic: under the key `name`.
-/

namespace FaultDrill.Command

/-- An entry that nobody asks for. -/
def IsOther (entry : Value × Value) : Prop := ∃ key, entry.1 = .text key ∧ key ≠ "name"

/-- Data that tells the name of a toxic. -/
inductive Names (name : String) : Value → Prop
  | record {before after : List (Value × Value)} (others : ∀ entry ∈ before ++ after, IsOther entry) :
      Names name (.record (before ++ (.text "name", .text name) :: after))
  | list : Names name (.list [.text name])

theorem names_iff_tells {name : String} {value : Value} :
    Names name value ↔ value.Tells "name" name := by
  constructor
  · intro names
    cases names with
    | record others => exact .record others
    | list => exact .list
  · intro tells
    cases tells with
    | record others => exact .record others
    | list => exact .list

/-- Just those bodies tell a name that are JSON with this name in it. -/
theorem toxicName?_eq_some {body : List UInt8} {name : String} :
    toxicName? body = some name ↔ ∃ value, Json.parseBytes body = some value ∧ Names name value := by
  simp only [names_iff_tells]
  exact Json.told?_eq_some

end FaultDrill.Command
