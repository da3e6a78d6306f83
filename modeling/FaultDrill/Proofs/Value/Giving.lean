import FaultDrill.Proofs.Value.Members

/-!
What a record gives under a name. A record whose keys are texts may give a name more than
once, and the order of its entries is that of their text. A reader of structures finds each
member where it is given once, and fails where one of its names is given again.
-/

namespace FaultDrill

namespace Value

variable {name tag : String} {names : List String} {entries others : List (Value × Value)}

/-- All that a record gives under a name, in order. -/
def givenFor (name : String) (entries : List (Value × Value)) : List Value :=
  (entries.filter fun entry => isText name entry.1).map Prod.snd

theorem isText_iff {key : Value} : isText name key = true ↔ key = .text name := by
  cases key <;> simp [isText]

theorem text?_eq_some {value : Value} {text : String} :
    value.text? = some text ↔ value = .text text := by
  cases value <;> simp [text?]

theorem natural?_eq_some {value : Value} {number : UInt64} :
    value.natural? = some number ↔ value = .natural number := by
  cases value <;> simp [natural?]

theorem givenFor_cons (name : String) (key value : Value) (rest : List (Value × Value)) :
    givenFor name ((key, value) :: rest) =
      if isText name key then value :: givenFor name rest else givenFor name rest := by
  rw [givenFor, List.filter_cons]
  split <;> rfl

theorem givenFor_append (name : String) (front back : List (Value × Value)) :
    givenFor name (front ++ back) = givenFor name front ++ givenFor name back := by
  rw [givenFor, List.filter_append, List.map_append]
  rfl

/-- The order of the entries is that of what they give under one name. -/
theorem perm_givenFor (same : entries.Perm others) (name : String) :
    (givenFor name entries).Perm (givenFor name others) :=
  (same.filter _).map _

/-- Entries with one name do not hide what there is under another one. -/
theorem givenFor_without (different : name ≠ tag) :
    givenFor name (entries.filter fun entry => !isText tag entry.1) = givenFor name entries := by
  rw [givenFor, givenFor, List.filter_filter]
  congr 1
  apply List.filter_congr
  intro entry _
  cases named : isText name entry.1 with
  | false => rfl
  | true =>
      rw [isText_iff.mp named, isText, beq_eq_false_iff_ne.mpr different]
      rfl

theorem entriesUsable_eq_all (entries : List (Value × Value)) :
    entriesUsable entries = entries.all fun entry => entry.1.isUsable && entry.2.isUsable := by
  induction entries with
  | nil => rfl
  | cons entry rest induction =>
      rw [entriesUsable, induction, List.all_cons]

theorem entriesUsable_perm (same : entries.Perm others) :
    entriesUsable entries = entriesUsable others := by
  rw [entriesUsable_eq_all, entriesUsable_eq_all, same.all_eq]

/-- A record names its kind exactly if it gives one text under the tag and all of it can be
used. -/
theorem variant?_record {kind : String} {rest : Value} :
    (Value.record entries).variant? tag = some (kind, rest) ↔
      entriesUsable entries = true ∧ givenFor tag entries = [.text kind] ∧
        rest = .record (entries.filter fun entry => !isText tag entry.1) := by
  rw [variant?, isUsable, givenFor]
  by_cases usable : entriesUsable entries = true
  · rw [if_pos usable]
    constructor
    · intro read
      split at read
      · rename_i key kind only
        cases read
        rw [only]
        exact ⟨usable, rfl, rfl⟩
      · cases read
    · rintro ⟨-, given, rfl⟩
      rcases List.map_eq_singleton_iff.mp given with ⟨⟨key, value⟩, only, isKind⟩
      dsimp only at isKind
      rw [only, isKind]
  · rw [if_neg usable]
    exact iff_of_false nofun fun told => usable told.1

/-! ## Records with texts for keys -/

/-- All keys of a record are texts. -/
def HasTextKeys (entries : List (Value × Value)) : Prop :=
  ∀ entry ∈ entries, ∃ key, entry.1 = .text key

theorem HasTextKeys.filter (textKeys : HasTextKeys entries) (keep : Value × Value → Bool) :
    HasTextKeys (entries.filter keep) :=
  fun entry member => textKeys entry (List.mem_of_mem_filter member)

theorem keyName?_beq (known : name ∈ names) (key : String) :
    (keyName? names (.text key) == some (some name)) = isText name (.text key) := by
  rw [keyName?, isText]
  by_cases same : key = name
  · simp [same, known]
  · by_cases other : key ∈ names <;> simp [same, other]

/-- A name is wanted as often as something is given under it. -/
theorem count_named (textKeys : HasTextKeys entries) (known : name ∈ names) :
    ((named (keyName? names) entries).map Prod.fst).count name =
      (givenFor name entries).length := by
  induction entries with
  | nil => rfl
  | cons entry rest induction =>
      rcases entry with ⟨first, value⟩
      rcases List.forall_mem_cons.mp textKeys with ⟨⟨key, isKey⟩, later⟩
      dsimp only at isKey
      subst isKey
      have others := induction later
      rw [givenFor_cons, isText]
      by_cases wanted : key ∈ names
      · have found : keyName? names (.text key) = some (some key) := by rw [keyName?, if_pos wanted]
        rw [named_wanted found, List.map_cons, List.count_cons, others]
        cases key == name <;> rfl
      · have unknown : (keyName? names (.text key)).join = none := by
          rw [keyName?, if_neg wanted]
          rfl
        have different : key ≠ name := fun same => wanted (same ▸ known)
        rw [named_unwanted unknown, others, beq_eq_false_iff_ne.mpr different]
        rfl

theorem mem_of_mem_named (textKeys : HasTextKeys entries)
    (found : name ∈ (named (keyName? names) entries).map Prod.fst) : name ∈ names := by
  rcases List.mem_map.mp found with ⟨⟨foundName, value⟩, among, rfl⟩
  rcases List.mem_filterMap.mp among with ⟨entry, member, wanted⟩
  rcases textKeys entry member with ⟨key, isKey⟩
  rw [isKey, keyName?] at wanted
  by_cases known : key ∈ names
  · rw [if_pos known] at wanted
    cases wanted
    exact known
  · rw [if_neg known] at wanted
    cases wanted

theorem isTidy_iff (textKeys : HasTextKeys entries) :
    isTidy (keyName? names) entries = true ↔
      ∀ name ∈ names, (givenFor name entries).length ≤ 1 := by
  have keys : (entries.all fun entry => (keyName? names entry.1).isSome) = true := by
    rw [List.all_eq_true]
    intro entry member
    rcases textKeys entry member with ⟨key, isKey⟩
    rw [isKey]
    rfl
  rw [isTidy, keys, Bool.true_and, decide_eq_true_iff, List.nodup_iff_count_le_one]
  constructor
  · intro once name known
    rw [← count_named textKeys known]
    exact once name
  · intro once name
    by_cases known : name ∈ names
    · rw [count_named textKeys known]
      exact once name known
    · rw [List.count_eq_zero_of_not_mem fun found => known (mem_of_mem_named textKeys found)]
      exact Nat.zero_le 1

theorem lookup_named_keyName? (textKeys : HasTextKeys entries) (known : name ∈ names) :
    (named (keyName? names) entries).lookup name = (givenFor name entries).head? := by
  rw [lookup_named, givenFor, List.head?_map, ← List.head?_filter]
  congr 2
  apply List.filter_congr
  intro entry member
  rcases textKeys entry member with ⟨key, isKey⟩
  rw [isKey]
  exact keyName?_beq known key

/-- A structure is read if its names are given at most once each. -/
theorem exists_members? (textKeys : HasTextKeys entries)
    (once : ∀ name ∈ names, (givenFor name entries).length ≤ 1) :
    ∃ members, (Value.record entries).members? names = some members := by
  rw [members?, wanted_eq, if_pos ((isTidy_iff textKeys).mpr once)]
  exact ⟨_, rfl⟩

/-- The members of a structure are all that the record gives under their names. -/
theorem lookup_of_members? {members : List (String × Value)} (textKeys : HasTextKeys entries)
    (read : (Value.record entries).members? names = some members) :
    ∀ name ∈ names, (members.lookup name).toList = givenFor name entries := by
  intro name known
  rw [members?, wanted_eq] at read
  split at read
  · rename_i tidy
    cases read
    have once := (isTidy_iff textKeys).mp tidy name known
    rw [lookup_named_keyName? textKeys known]
    cases given : givenFor name entries with
    | nil => rfl
    | cons value rest =>
        have noMore : rest = [] := by simpa [given] using once
        rw [noMore]
        rfl
  · cases read

end Value

end FaultDrill
