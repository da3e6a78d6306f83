import Mathlib.Data.List.Nodup
import FaultDrill.Value.Members

/-!
Members of a structure. A reader of structures passes once through the entries and keeps
those it wants; a structure that was written with just its members has all of them.
-/

namespace FaultDrill

/-! ## Entries that are wanted -/

section Wanted

variable {key data : Type} (nameOf : key → Option (Option String))

/-- The wanted entries of a list, by name. -/
def named (entries : List (key × data)) : List (String × data) :=
  entries.filterMap fun entry => (nameOf entry.1).join.map fun name => (name, entry.2)

/-- Every key may be one, and no wanted name comes twice. -/
def isTidy (entries : List (key × data)) : Bool :=
  (entries.all fun entry => (nameOf entry.1).isSome) &&
    decide ((named nameOf entries).map Prod.fst).Nodup

variable {nameOf} {first : key} {value : data} {rest : List (key × data)}

theorem isSome_lookup_iff {members : List (String × data)} {name : String} :
    (members.lookup name).isSome = true ↔ name ∈ members.map Prod.fst := by
  induction members with
  | nil => simp
  | cons member rest induction =>
      rw [List.lookup_cons, List.map_cons, List.mem_cons, ← induction]
      cases same : name == member.1 with
      | true => simp [beq_iff_eq.mp same]
      | false => simp [beq_eq_false_iff_ne.mp same]

theorem lookup_map {other : Type} (change : data → other) (members : List (String × data))
    (name : String) :
    (members.map fun member => (member.1, change member.2)).lookup name =
      (members.lookup name).map change := by
  induction members with
  | nil => rfl
  | cons member rest induction =>
      rw [List.map_cons, List.lookup_cons, List.lookup_cons, induction]
      cases name == member.1 <;> rfl

theorem named_unwanted (unwanted : (nameOf first).join = none) :
    named nameOf ((first, value) :: rest) = named nameOf rest := by
  rw [named, List.filterMap_cons, unwanted]
  rfl

theorem named_wanted {name : String} (wanted : nameOf first = some (some name)) :
    named nameOf ((first, value) :: rest) = (name, value) :: named nameOf rest := by
  rw [named, List.filterMap_cons, wanted]
  rfl

theorem isTidy_unwanted (unwanted : nameOf first = some none) :
    isTidy nameOf ((first, value) :: rest) = isTidy nameOf rest := by
  have skipped : (nameOf first).join = none := by rw [unwanted]; rfl
  rw [isTidy, named_unwanted skipped, List.all_cons, unwanted]
  rfl

theorem isTidy_wanted {name : String} (wanted : nameOf first = some (some name)) :
    isTidy nameOf ((first, value) :: rest) =
      (isTidy nameOf rest && !((named nameOf rest).lookup name).isSome) := by
  have taken : ((named nameOf rest).lookup name).isSome = true ↔
      name ∈ (named nameOf rest).map Prod.fst := isSome_lookup_iff
  rw [isTidy, named_wanted wanted, List.all_cons, wanted, List.map_cons, isTidy]
  simp only [List.nodup_cons, ← taken]
  cases ((named nameOf rest).lookup name).isSome <;> simp

/-- The entries wanted of a list are all those it has, if it is tidy. -/
theorem wanted_eq (entries : List (key × data)) :
    wanted nameOf entries =
      if isTidy nameOf entries then some (named nameOf entries) else none := by
  induction entries with
  | nil => rfl
  | cons entry rest induction =>
      obtain ⟨first, value⟩ := entry
      -- The rest is read first: a name that it has may not come before it.
      rw [wanted, induction]
      cases name : nameOf first with
      | none =>
          have untidy : isTidy nameOf ((first, value) :: rest) = false := by simp [isTidy, name]
          rw [untidy]
          cases isTidy nameOf rest <;> rfl
      | some wantedName =>
          cases wantedName with
          | none =>
              rw [isTidy_unwanted name, named_unwanted (by rw [name]; rfl)]
              cases isTidy nameOf rest <;> rfl
          | some wantedName =>
              rw [isTidy_wanted name, named_wanted name]
              cases isTidy nameOf rest with
              | false => rfl
              | true =>
                  simp only [if_true, Option.bind_eq_bind, Option.bind_some, Bool.true_and]
                  cases ((named nameOf rest).lookup wantedName).isSome <;> rfl

theorem lookup_named (name : String) (entries : List (key × data)) :
    (named nameOf entries).lookup name =
      (entries.find? fun entry => nameOf entry.1 == some (some name)).map Prod.snd := by
  induction entries with
  | nil => rfl
  | cons entry rest induction =>
      obtain ⟨first, value⟩ := entry
      rw [List.find?_cons]
      cases found : (nameOf first).join with
      | none =>
          -- A key that may be none is passed over like one nobody wants.
          have other : (nameOf first == some (some name)) = false := by
            rw [beq_eq_false_iff_ne]
            intro same
            rw [same] at found
            cases found
          rw [named_unwanted found, induction]
          simp only [other]
      | some foundName =>
          have found := Option.join_eq_some_iff.mp found
          rw [named_wanted found, List.lookup_cons, induction]
          cases same : name == foundName with
          | true => simp [found, beq_iff_eq.mp same]
          | false =>
              have other : (nameOf first == some (some name)) = false := by
                rw [found, beq_eq_false_iff_ne]
                intro equal
                exact beq_eq_false_iff_ne.mp same (Option.some.inj (Option.some.inj equal)).symm
              simp only [other]

end Wanted

/-! ## Structures as they are written -/

section Written

variable {α : Type} {names : List String} {members : List (String × Value)}

theorem named_ofFields (known : ∀ member ∈ members, member.1 ∈ names) :
    named (Value.keyName? names) (members.map fun (name, value) => (.text name, value)) =
      members := by
  induction members with
  | nil => rfl
  | cons member rest induction =>
      have name : Value.keyName? names (.text member.1) = some (some member.1) := by
        rw [Value.keyName?, if_pos (known member List.mem_cons_self)]
      rw [List.map_cons, named_wanted name,
        induction fun other later => known other (List.mem_cons_of_mem _ later)]

/-- A structure that was written with members of different names has these members. -/
theorem members?_ofFields (known : ∀ member ∈ members, member.1 ∈ names)
    (distinct : (members.map Prod.fst).Nodup) :
    (Value.ofFields members).members? names = some members := by
  have tidy : isTidy (Value.keyName? names)
      (members.map fun (name, value) => (Value.text name, value)) = true := by
    rw [isTidy, named_ofFields known, decide_eq_true distinct, Bool.and_true]
    simp [Value.keyName?]
  rw [Value.ofFields, Value.members?, wanted_eq, if_pos tidy, named_ofFields known]

theorem required_eq_some {read : Value → Option α} {name : String} {value : Value} {result : α}
    (found : members.lookup name = some value) (reads : read value = some result) :
    Source.required read name members = some result := by
  rw [Source.required, found]
  exact reads

end Written

end FaultDrill
