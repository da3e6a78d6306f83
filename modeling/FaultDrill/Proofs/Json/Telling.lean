import FaultDrill.Json.Reader
import FaultDrill.Proofs.Steps
import FaultDrill.Proofs.Value.Giving

/-!
How a body tells a text under a key. The body is JSON: either a record with the text under
that key, once and among other entries that nobody asks for, or a list of the text alone.
-/

namespace FaultDrill

namespace Json

variable {join : List Piece → Option (List Char)}

/-! ## Keys -/

/-- What can be read where the key of an entry is. -/
inductive IsKey : Value → Prop
  | text (key : String) : IsKey (.text key)
  | unusable : IsKey .unusable

theorem isKey_of_readText {text rest : List Char} {key : Value}
    (read : readText join text = some (key, rest)) : IsKey key := by
  rw [readText] at read
  rcases Option.bind_eq_some_iff.mp read with ⟨⟨pieces, behind⟩, -, read⟩
  dsimp only at read
  split at read
  · cases read
    exact .text _
  · cases read
    exact .unusable

theorem isKey_of_readEntries {fuel room : Nat} {text rest : List Char}
    {entries : List (Value × Value)} (read : readEntries join fuel room text = some (entries, rest)) :
    ∀ entry ∈ entries, IsKey entry.1 := by
  induction fuel generalizing text entries with
  | zero => cases read
  | succ fuel induction =>
      rw [readEntries] at read
      -- A key comes first, then a colon and a value, and then the other entries or the end.
      split at read
      · rcases Option.bind_eq_some_iff.mp read with ⟨⟨key, behindKey⟩, keyed, read⟩
        have isKey := isKey_of_readText keyed
        dsimp only at read
        split at read
        · rcases Option.bind_eq_some_iff.mp read with ⟨behindColon, -, read⟩
          rcases Option.bind_eq_some_iff.mp read with ⟨⟨value, behindValue⟩, -, read⟩
          dsimp only at read
          split at read
          · rcases Option.bind_eq_some_iff.mp read with ⟨⟨others, behind⟩, readOthers, equal⟩
            cases equal
            exact List.forall_mem_cons.mpr ⟨isKey, induction readOthers⟩
          · cases read
            exact List.forall_mem_cons.mpr ⟨isKey, nofun⟩
          · cases read
        · cases read
      · cases read

theorem NumberText.toValue_ne_record (number : NumberText) (entries : List (Value × Value)) :
    number.toValue ≠ .record entries := by
  have float : number.toFloatValue ≠ .record entries := by
    rw [toFloatValue]
    split <;> exact nofun
  rw [toValue]
  split
  · dsimp only
    repeat' split
    all_goals first | exact float | exact nofun
  · exact float

theorem isKey_of_readValue {fuel room : Nat} {text rest : List Char}
    {entries : List (Value × Value)}
    (read : readValue join fuel room text = some (.record entries, rest)) :
    ∀ entry ∈ entries, IsKey entry.1 := by
  cases fuel with
  | zero => cases read
  | succ fuel =>
      rw [readValue] at read
      dsimp only at read
      split at read
      · cases read
      · cases read
      · cases read
      · cases isKey_of_readText read
      · split at read
        · split at read <;> cases read
        · rcases Option.map_eq_some_iff.mp read with ⟨⟨items, behind⟩, -, equal⟩
          dsimp only at equal
          split at equal <;> cases equal
      · split at read
        · split at read
          · cases read
          · cases read
            exact nofun
        · rcases Option.map_eq_some_iff.mp read with ⟨⟨others, behind⟩, readOthers, equal⟩
          dsimp only at equal
          split at equal
          · cases equal
          · cases equal
            exact isKey_of_readEntries readOthers
      · rcases Option.map_eq_some_iff.mp read with ⟨⟨number, behind⟩, -, equal⟩
        exact absurd (Prod.mk.inj equal).1 (number.toValue_ne_record entries)

theorem isKey_of_parseChars {chars : List Char} {entries : List (Value × Value)}
    (parsed : parseChars join chars = some (.record entries)) :
    ∀ entry ∈ entries, IsKey entry.1 := by
  rw [parseChars] at parsed
  split at parsed
  · rename_i value rest read
    split at parsed
    · cases parsed
      exact isKey_of_readValue read
    · cases parsed
  · cases parsed

theorem isKey_of_parseBytes {bytes : List UInt8} {entries : List (Value × Value)}
    (parsed : parseBytes bytes = some (.record entries)) : ∀ entry ∈ entries, IsKey entry.1 :=
  isKey_of_parseChars parsed

end Json

namespace Value

/-! ## Texts under a key -/

/-- An entry under some other key. -/
def IsBeside (key : String) (entry : Value × Value) : Prop :=
  ∃ other, entry.1 = .text other ∧ other ≠ key

/-- Data that tells a text under a key. -/
inductive Tells (key text : String) : Value → Prop
  | record {before after : List (Value × Value)}
      (others : ∀ entry ∈ before ++ after, IsBeside key entry) :
      Tells key text (.record (before ++ (.text key, .text text) :: after))
  | list : Tells key text (.list [.text text])

variable {key text : String} {entries : List (Value × Value)}

theorem isText_of_isBeside {entry : Value × Value} (beside : IsBeside key entry) :
    isText key entry.1 = false := by
  rcases beside with ⟨other, isOther, different⟩
  rw [isOther, isText, beq_eq_false_iff_ne.mpr different]

theorem givenFor_of_beside (beside : ∀ entry ∈ entries, IsBeside key entry) :
    givenFor key entries = [] := by
  rw [givenFor, List.map_eq_nil_iff, List.filter_eq_nil_iff]
  intro entry member
  rw [isText_of_isBeside (beside entry member)]
  exact Bool.false_ne_true

/-- A record tells a text exactly if its keys are texts and it gives the key just once, with
the text under it. -/
theorem tells_record_iff :
    Tells key text (.record entries) ↔
      HasTextKeys entries ∧ givenFor key entries = [.text text] := by
  constructor
  · intro tells
    cases tells with
    | @record before after others =>
        rcases List.forall_mem_append.mp others with ⟨inFront, behind⟩
        constructor
        · rw [HasTextKeys, List.forall_mem_append, List.forall_mem_cons]
          exact ⟨fun entry member => (inFront entry member).imp fun _ => And.left, ⟨key, rfl⟩,
            fun entry member => (behind entry member).imp fun _ => And.left⟩
        · rw [givenFor_append, givenFor_cons, if_pos (isText_iff.mpr rfl),
            givenFor_of_beside inFront, givenFor_of_beside behind]
          rfl
  · rintro ⟨textKeys, given⟩
    rcases List.map_eq_singleton_iff.mp given with ⟨⟨first, value⟩, only, isValue⟩
    rcases List.filter_eq_cons_iff.mp only with ⟨before, after, split, noneBefore, here, rest⟩
    have noneAfter := List.filter_eq_nil_iff.mp rest
    dsimp only at isValue here
    rw [split, isText_iff.mp here] at textKeys
    rw [split, isText_iff.mp here, isValue]
    apply Tells.record
    intro entry among
    have unnamed : ¬ isText key entry.1 = true := by
      rcases List.mem_append.mp among with inFront | behind
      · exact noneBefore entry inFront
      · exact noneAfter entry behind
    have kept : entry ∈ before ++ (.text key, value) :: after := by
      rcases List.mem_append.mp among with inFront | behind
      · exact List.mem_append_left _ inFront
      · exact List.mem_append_right _ (List.mem_cons_of_mem _ behind)
    rcases textKeys entry kept with ⟨other, isOther⟩
    refine ⟨other, isOther, ?_⟩
    rintro rfl
    exact unnamed (isText_iff.mpr isOther)

/-- Where a structure is read from a record of JSON, all keys are texts. -/
theorem hasTextKeys_of_members? {names : List String} {members : List (String × Value)}
    (keys : ∀ entry ∈ entries, Json.IsKey entry.1)
    (read : (Value.record entries).members? names = some members) : HasTextKeys entries := by
  rw [members?, wanted_eq] at read
  split at read
  · rename_i tidy
    have named := List.all_eq_true.mp (Bool.and_eq_true_iff.mp tidy).1
    intro entry member
    have isNamed := named entry member
    rcases entry with ⟨key, value⟩
    cases keys _ member with
    | text key => exact ⟨key, rfl⟩
    | unusable => cases isNamed
  · cases read

end Value

/-- What a body tells under a key, as a structure with this one member. -/
def Json.told? (key : String) (body : List UInt8) : Option String := do
  let members ← Source.members? [key] (← Json.parseBytes body)
  Source.required Source.text? key members

/-- Just those bodies tell a text that are JSON with this text in it. -/
theorem Json.told?_eq_some {key text : String} {body : List UInt8} :
    told? key body = some text ↔
      ∃ value, parseBytes body = some value ∧ value.Tells key text := by
  rw [told?]
  constructor
  · intro told
    rcases Option.bind_eq_some_iff.mp told with ⟨value, parsed, told⟩
    rcases Option.bind_eq_some_iff.mp told with ⟨members, known, told⟩
    rcases Option.bind_eq_some_iff.mp told with ⟨member, found, isText⟩
    have isText := Value.text?_eq_some.mp isText
    refine ⟨value, parsed, ?_⟩
    cases value with
    | record entries =>
        have textKeys := Value.hasTextKeys_of_members? (isKey_of_parseBytes parsed) known
        have given := Value.lookup_of_members? textKeys known key List.mem_cons_self
        rw [found, isText] at given
        exact Value.tells_record_iff.mpr ⟨textKeys, given.symm⟩
    | list items =>
        change (if items.length ≤ 1 then some ([key].zip items) else none) = _ at known
        match items with
        | [] =>
            cases known
            cases found
        | [item] =>
            cases known
            rw [List.zip_cons_cons, List.lookup_cons_self] at found
            cases found
            rw [isText]
            exact .list
        | _ :: _ :: _ =>
            rw [if_neg (by simp)] at known
            cases known
    | _ => cases known
  · rintro ⟨value, parsed, tells⟩
    rw [parsed]
    cases value with
    | record entries =>
        rcases Value.tells_record_iff.mp tells with ⟨textKeys, given⟩
        have once : ∀ name ∈ [key], (Value.givenFor name entries).length ≤ 1 := by simp [given]
        rcases Value.exists_members? textKeys once with ⟨members, known⟩
        have found := Value.lookup_of_members? textKeys known key List.mem_cons_self
        rw [given, Option.toList_eq_singleton_iff] at found
        refine bind_of_eq_some rfl (bind_of_eq_some known ?_)
        exact required_eq_some found rfl
    | list items =>
        cases tells
        exact required_eq_some List.lookup_cons_self rfl
    | _ => cases tells

end FaultDrill
