import FaultDrill.Http.Header
import FaultDrill.Proofs.Steps
import Mathlib.Data.List.Basic

/-!
What is kept of headers that are added one after another. The first that is not well
formed is reported. If there is none, then the last value given under a name is kept,
in letters of whatever case the name is given.
-/

namespace FaultDrill.Http

/-- A name and a value that can be sent. -/
def IsWellFormed (pair : String × String) : Prop :=
  isHeaderName pair.1 = true ∧ isHeaderValue pair.2 = true

/-- What is wrong with a header. Its name is judged before its value. -/
inductive HeaderError.Concerns : String × String → HeaderError → Prop where
  | name {name value : String} (bad : isHeaderName name = false) :
      Concerns (name, value) (.badName name)
  | value {name value : String} (good : isHeaderName name = true)
      (bad : isHeaderValue value = false) : Concerns (name, value) (.badValue name)

theorem not_isWellFormed_iff {pair : String × String} :
    ¬ IsWellFormed pair ↔ ∃ error, HeaderError.Concerns pair error := by
  rcases pair with ⟨name, value⟩
  constructor
  · intro malformed
    cases good : isHeaderName name with
    | false => exact ⟨_, .name good⟩
    | true =>
        cases sendable : isHeaderValue value with
        | false => exact ⟨_, .value good sendable⟩
        | true => exact absurd ⟨good, sendable⟩ malformed
  · rintro ⟨error, concerns⟩ ⟨good, sendable⟩
    cases concerns with
    | name bad => cases good.symm.trans bad
    | value _ bad => cases sendable.symm.trans bad

/-! ## Names in letters of either case -/

/-- A name as it is kept. -/
def folded (name : String) : String := String.ofList (name.toList.map Char.toLower)

/-- What a capital letter is turned into is no capital letter. -/
theorem toLower_toLower (char : Char) : char.toLower.toLower = char.toLower := by
  by_cases capital : 'A'.val ≤ char.val ∧ char.val ≤ 'Z'.val
  · have small : ¬ ('A'.val ≤ char.toLower.val ∧ char.toLower.val ≤ 'Z'.val) := by
      have value : char.toLower.val = char.val + 32 := by
        have lowered : char.toLower = _ := dif_pos capital
        rw [lowered]
        rfl
      simp only [value, UInt32.le_iff_toNat_le, UInt32.toNat_add] at capital ⊢
      have first : 'A'.val.toNat = 65 := rfl
      have last : 'Z'.val.toNat = 90 := rfl
      have shift : (32 : UInt32).toNat = 32 := rfl
      omega
    exact dif_neg small
  · have kept : char.toLower = char := dif_neg capital
    rw [kept, kept]

theorem folded_folded (name : String) : folded (folded name) = folded name := by
  simp only [folded, String.toList_ofList, List.map_map]
  congr 2
  funext char
  exact toLower_toLower char

/-- Whether a header has a name, in letters of either case. -/
def isNamed (name : String) (header : String × String) : Bool := folded header.1 == folded name

namespace Headers

variable {headers result : Headers} {earlier pairs : List (String × String)} {name value : String}

/-! ## Adding one header -/

theorem add_cons_of_isWellFormed (wellFormed : IsWellFormed (name, value)) :
    headers.add ((name, value) :: pairs) = (headers.set (folded name) value).add pairs := by
  obtain ⟨good, sendable⟩ := wellFormed
  simp only [add, good, sendable, Bool.not_true, Bool.false_eq_true, if_false]
  rfl

theorem add_cons_of_concerns {pair : String × String} {error : HeaderError}
    (concerns : error.Concerns pair) : headers.add (pair :: pairs) = .error error := by
  cases concerns with
  | name bad => simp only [add, bad, Bool.not_false, if_true]
  | value good bad =>
      simp only [add, good, bad, Bool.not_true, Bool.not_false, Bool.false_eq_true, if_true,
        if_false]

/-- Setting a header passes over those that are left out. -/
theorem filter_set (keep : String → Bool) (headers : Headers) (name value : String) :
    (headers.set name value).filter (fun header => keep header.1) =
      if keep name then set (headers.filter fun header => keep header.1) name value
      else headers.filter fun header => keep header.1 := by
  induction headers with
  | nil => cases kept : keep name <;> simp [set, kept]
  | cons header rest induction =>
      rcases header with ⟨first, old⟩
      rw [set]
      by_cases same : first = name
      · subst same
        cases kept : keep first <;> simp [set, kept]
      · rw [if_neg same, List.filter_cons, induction]
        cases kept : keep first <;> cases keep name <;> simp [set, kept, same]

/-- The entry that some pairs leave under a name: the last one of that name. -/
def leftUnder (name : String) (pairs : List (String × String)) : Option (String × String) :=
  (pairs.filter (isNamed name)).getLast?.map fun pair => (folded name, pair.2)

/-- Headers are what some pairs leave. There is nothing else under any name. -/
def AreLeftBy (pairs : List (String × String)) (headers : Headers) : Prop :=
  ∀ name, headers.filter (isNamed name) = (leftUnder name pairs).toList

theorem areLeftBy_nil : AreLeftBy [] [] := fun _ => rfl

/-- One more pair takes the place of those of its name and leaves all others alone. -/
theorem AreLeftBy.set (left : AreLeftBy earlier headers) (name value : String) :
    AreLeftBy (earlier ++ [(name, value)]) (headers.set (folded name) value) := by
  intro wanted
  have behind := filter_set (fun kept => folded kept == folded wanted) headers (folded name) value
  rw [folded_folded] at behind
  refine behind.trans ?_
  have before : (headers.filter fun header => folded header.1 == folded wanted) =
      (leftUnder wanted earlier).toList := left wanted
  rw [before, leftUnder, leftUnder, List.filter_append, List.filter_singleton, isNamed]
  by_cases same : folded name = folded wanted
  · -- What was there, if anything, has the very name that is set.
    rw [beq_iff_eq.mpr same, if_pos rfl, same, Bool.cond_true, List.getLast?_concat]
    cases (earlier.filter (isNamed wanted)).getLast? with
    | none => rfl
    | some pair => simp [Headers.set]
  · rw [beq_eq_false_iff_ne.mpr same, Bool.cond_false, List.append_nil]
    rfl

/-! ## Adding all -/

theorem AreLeftBy.add (left : AreLeftBy earlier headers) (added : headers.add pairs = .ok result) :
    AreLeftBy (earlier ++ pairs) result := by
  induction pairs generalizing earlier headers with
  | nil =>
      cases added
      rwa [List.append_nil]
  | cons pair pairs induction =>
      rcases pair with ⟨name, value⟩
      by_cases wellFormed : IsWellFormed (name, value)
      · rw [add_cons_of_isWellFormed wellFormed] at added
        rw [List.append_cons]
        exact induction (left.set name value) added
      · obtain ⟨error, concerns⟩ := not_isWellFormed_iff.mp wellFormed
        cases (add_cons_of_concerns concerns).symm.trans added

/-- A pair is refused for an error, and none in front of it is. -/
def RefusedFirst (pairs : List (String × String)) (error : HeaderError) : Prop :=
  ∃ front pair back, pairs = front ++ pair :: back ∧ (∀ other ∈ front, IsWellFormed other) ∧
    error.Concerns pair

theorem exists_add_append {front : List (String × String)}
    (wellFormed : ∀ pair ∈ front, IsWellFormed pair) (headers : Headers)
    (back : List (String × String)) :
    ∃ middle : Headers, headers.add (front ++ back) = middle.add back := by
  induction front generalizing headers with
  | nil => exact ⟨headers, rfl⟩
  | cons pair front induction =>
      rcases pair with ⟨name, value⟩
      obtain ⟨first, others⟩ := List.forall_mem_cons.mp wellFormed
      rw [List.cons_append, add_cons_of_isWellFormed first]
      exact induction others _

theorem exists_ofList (wellFormed : ∀ pair ∈ pairs, IsWellFormed pair) :
    ∃ headers, ofList pairs = .ok headers := by
  obtain ⟨headers, added⟩ := exists_add_append wellFormed [] []
  rw [List.append_nil] at added
  exact ⟨headers, added⟩

theorem ofList_of_refusedFirst {error : HeaderError} (first : RefusedFirst pairs error) :
    ofList pairs = .error error := by
  obtain ⟨front, pair, back, rfl, wellFormed, concerns⟩ := first
  obtain ⟨middle, added⟩ := exists_add_append wellFormed [] (pair :: back)
  exact added.trans (add_cons_of_concerns concerns)

theorem exists_refusedFirst {pair : String × String} (member : pair ∈ pairs)
    (malformed : ¬ IsWellFormed pair) : ∃ error, RefusedFirst pairs error := by
  induction pairs with
  | nil => cases member
  | cons first rest induction =>
      by_cases wellFormed : IsWellFormed first
      · have later : pair ∈ rest := by
          rcases List.mem_cons.mp member with rfl | later
          · exact absurd wellFormed malformed
          · exact later
        obtain ⟨error, front, refused, back, rfl, others, concerns⟩ := induction later
        exact ⟨error, first :: front, refused, back, rfl,
          List.forall_mem_cons.mpr ⟨wellFormed, others⟩, concerns⟩
      · obtain ⟨error, concerns⟩ := not_isWellFormed_iff.mp wellFormed
        exact ⟨error, [], first, rest, rfl, nofun, concerns⟩

theorem ofList_isOk_iff :
    (∃ headers, ofList pairs = .ok headers) ↔ ∀ pair ∈ pairs, IsWellFormed pair := by
  refine ⟨?_, exists_ofList⟩
  rintro ⟨headers, added⟩ pair member
  by_contra malformed
  obtain ⟨error, first⟩ := exists_refusedFirst member malformed
  cases added.symm.trans (ofList_of_refusedFirst first)

theorem ofList_eq_error {error : HeaderError} :
    ofList pairs = .error error ↔ RefusedFirst pairs error := by
  refine ⟨fun refused => ?_, ofList_of_refusedFirst⟩
  have malformed : ¬ ∀ pair ∈ pairs, IsWellFormed pair := by
    intro wellFormed
    obtain ⟨headers, added⟩ := exists_ofList wellFormed
    cases added.symm.trans refused
  push Not at malformed
  obtain ⟨pair, member, malformed⟩ := malformed
  obtain ⟨other, first⟩ := exists_refusedFirst member malformed
  cases refused.symm.trans (ofList_of_refusedFirst first)
  exact first

/-- Headers are refused exactly if some name or value is not well formed, and then for the
first pair that has such a name or value. Otherwise there is one entry for each name that
is given, in letters of either case, with the value given last, and there are no others. -/
theorem last_value_kept (pairs : List (String × String)) :
    ((∃ error, ofList pairs = .error error) ↔
      ∃ pair ∈ pairs, isHeaderName pair.1 = false ∨ isHeaderValue pair.2 = false) ∧
    (∀ error, ofList pairs = .error error ↔ RefusedFirst pairs error) ∧
    (∀ headers, ofList pairs = .ok headers →
      ∀ name, headers.filter (isNamed name) = (leftUnder name pairs).toList) := by
  refine ⟨?_, fun error => ofList_eq_error, ?_⟩
  · have refused : (∃ error, ofList pairs = .error error) ↔
        ¬ ∃ headers, ofList pairs = .ok headers := by
      cases ofList pairs <;> simp
    rw [refused, ofList_isOk_iff]
    push Not
    simp only [IsWellFormed, not_and_or, Bool.not_eq_true]
  · intro headers added
    exact areLeftBy_nil.add added

/-- The second value under one name takes the place of the first. -/
theorem last_value_kept_either_case :
    let pairs := [("X-Key", "1"), ("Accept", "text/plain"), ("x-key", "2")]
    ∃ headers, ofList pairs = .ok headers ∧
      headers.filter (isNamed "X-KEY") = [("x-key", "2")] ∧ headers.filter (isNamed "Via") = [] := by
  intro pairs
  obtain ⟨headers, added⟩ : ∃ headers, ofList pairs = .ok headers :=
    exists_eq_ok_of_isOk (by decide)
  have kept := (last_value_kept pairs).2.2 headers added
  refine ⟨headers, added, (kept "X-KEY").trans ?_, (kept "Via").trans ?_⟩ <;> decide

end Headers

end FaultDrill.Http
