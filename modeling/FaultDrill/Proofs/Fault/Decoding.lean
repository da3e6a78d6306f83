import FaultDrill.Proofs.Json.Telling
import FaultDrill.Proofs.Report.Record
import FaultDrill.Proofs.Value.Giving

/-!
Which JSON objects stand for which faults. The kind says what other members are asked for;
each of them is found wherever it stands, and what nobody asks for only has to be something
that a value can hold.
-/

namespace FaultDrill

namespace Json

/-! ## Numbers in a text -/

/-- A whole number, written with neither sign, point nor power. -/
structure NumberText.IsUnsigned (number : NumberText) (value : UInt64) : Prop where
  isNegative : number.isNegative = false
  fraction : number.fraction = []
  power : number.power = none
  whole : Text.decimalValue number.whole = value.toNat

theorem NumberText.toFloatValue_ne_natural (number : NumberText) (value : UInt64) :
    number.toFloatValue ≠ .natural value := by
  intro same
  rw [toFloatValue] at same
  split at same <;> cases same

theorem NumberText.toValue_eq_natural {number : NumberText} {value : UInt64} :
    number.toValue = .natural value ↔ number.IsUnsigned value := by
  rcases number with ⟨isNegative, whole, fraction, power⟩
  constructor
  · intro same
    rw [toValue] at same
    dsimp only at same
    split at same
    · split at same
      · split at same
        · cases same
        · exact absurd same (toFloatValue_ne_natural _ value)
      · split at same
        · rename_i positive fits
          cases same
          exact ⟨Bool.eq_false_iff.mpr positive, rfl, rfl, (UInt64.toNat_ofNat_of_lt fits).symm⟩
        · exact absurd same (toFloatValue_ne_natural _ value)
    · exact absurd same (toFloatValue_ne_natural _ value)
  · rintro ⟨rfl, rfl, rfl, whole⟩
    have fits : value.toNat < UInt64.size := value.toNat_lt
    simp only [toValue, whole, Bool.false_eq_true, if_false, fits, if_true, UInt64.ofNat_toNat]

/-- A number begins with a digit or a minus sign, and nothing else does. -/
theorem readNumber_eq_none {first : Char} (strange : first ≠ '-' ∧ first.isDigit = false)
    (rest : List Char) : readNumber (first :: rest) = none := by
  have ends : Text.EndsDigits (first :: rest) := by
    rintro _ ⟨⟩
    exact strange.2
  have noWhole : readWhole (first :: rest) = none := by
    rw [readWhole]
    · rw [readDigits, Text.takeDigits_of_ends ends]
    · rintro _ same
      rw [(List.cons.inj same).1] at strange
      exact absurd strange.2 (by decide)
  rw [readNumber]
  · rw [noWhole]
    rfl
  · exact fun _ same => strange.1 (List.cons.inj same).1

/-- What a text says is a whole number exactly if it is written as one. -/
theorem readValue_eq_natural {join : List Piece → Option (List Char)} {fuel room : Nat}
    {text rest : List Char} {value : UInt64} :
    readValue join (fuel + 1) room text = some (.natural value, rest) ↔
      ∃ number, readNumber (skipSpace text) = some (number, rest) ∧ number.IsUnsigned value := by
  rw [readValue]
  dsimp only
  -- Texts, lists, records and words do not begin like a number.
  split
  case h_7 =>
    constructor
    · intro read
      rcases Option.map_eq_some_iff.mp read with ⟨⟨number, behind⟩, numbered, same⟩
      cases (Prod.mk.inj same).2
      exact ⟨number, numbered, NumberText.toValue_eq_natural.mp (Prod.mk.inj same).1⟩
    · rintro ⟨number, numbered, isUnsigned⟩
      rw [numbered, Option.map_some, NumberText.toValue_eq_natural.mpr isUnsigned]
  all_goals
    rename_i start
    rw [start, readNumber_eq_none (by decide)]
    refine iff_of_false ?_ (by rintro ⟨_, ⟨⟩, -⟩)
  all_goals intro read
  case h_1 => cases read
  case h_2 => cases read
  case h_3 => cases read
  case h_4 => cases isKey_of_readText read
  case h_5 =>
    split at read
    · split at read <;> cases read
    · rcases Option.map_eq_some_iff.mp read with ⟨⟨items, behind⟩, -, same⟩
      dsimp only at same
      split at same <;> cases same
  case h_6 =>
    split at read
    · split at read <;> cases read
    · rcases Option.map_eq_some_iff.mp read with ⟨⟨others, behind⟩, -, same⟩
      dsimp only at same
      split at same <;> cases same

end Json

namespace Fault

open Value (givenFor HasTextKeys lookup_of_members? exists_members?)

def kindName : Fault → String
  | .latency _ _ => "latency"
  | .bandwidth _ => "bandwidth"
  | .disable => "disable"

def fieldNames : Fault → List String
  | .latency _ _ => ["latency_ms", "jitter_ms"]
  | .bandwidth _ => ["rate_kbps"]
  | .disable => []

/-- Each field of a fault is given once. The jitter may be left out if there is none. -/
def HasFields (entries : List (Value × Value)) : Fault → Prop
  | .latency delay jitter =>
      givenFor "latency_ms" entries = [.natural delay] ∧
        (givenFor "jitter_ms" entries = [.natural jitter] ∨
          givenFor "jitter_ms" entries = [] ∧ jitter = 0)
  | .bandwidth rate => givenFor "rate_kbps" entries = [.natural rate]
  | .disable => True

/-- A record spells a fault, among whatever else it gives. -/
structure IsSpelled (entries : List (Value × Value)) (fault : Fault) : Prop where
  kind : givenFor "kind" entries = [.text fault.kindName]
  fields : fault.HasFields entries

/-- The fault that a JSON text stands for. -/
def ofJson? (text : String) : Option Fault := (Json.parse text).bind ofSource?

variable {entries others : List (Value × Value)} {fault : Fault}

/-! ## Fields -/

section Members

variable {names : List String} {members : List (String × Value)} {name : String} {number : UInt64}

theorem required_iff (found : (members.lookup name).toList = givenFor name entries) :
    Source.required Value.natural? name members = some number ↔
      givenFor name entries = [.natural number] := by
  rw [← found, Source.required, Option.toList_eq_singleton_iff]
  cases members.lookup name with
  | none => simp
  | some value => rw [Option.bind_some, Value.natural?_eq_some, Option.some.injEq]

theorem optional_iff (found : (members.lookup name).toList = givenFor name entries) :
    Source.optional Value.natural? 0 name members = some number ↔
      givenFor name entries = [.natural number] ∨ givenFor name entries = [] ∧ number = 0 := by
  rw [← found, Source.optional]
  cases members.lookup name with
  | none => simp [eq_comm]
  | some value => simp [Value.natural?_eq_some]

end Members

/-- A fault that is read of a kind has this kind and all its fields. -/
theorem hasFields_of_ofKind? {kind : String} (textKeys : HasTextKeys entries)
    (read : ofKind? kind (.record entries) = some fault) :
    kind = fault.kindName ∧ fault.HasFields entries := by
  unfold ofKind? at read
  split at read
  case h_1 =>
    rcases Option.bind_eq_some_iff.mp read with ⟨members, known, read⟩
    rcases Option.bind_eq_some_iff.mp read with ⟨delay, first, read⟩
    rcases Option.bind_eq_some_iff.mp read with ⟨jitter, second, read⟩
    cases read
    have found := lookup_of_members? textKeys known
    exact ⟨rfl, (required_iff (found _ (by simp))).mp first,
      (optional_iff (found _ (by simp))).mp second⟩
  case h_2 =>
    rcases Option.bind_eq_some_iff.mp read with ⟨members, known, read⟩
    rcases Option.bind_eq_some_iff.mp read with ⟨rate, field, read⟩
    cases read
    have found := lookup_of_members? textKeys known
    exact ⟨rfl, (required_iff (found _ (by simp))).mp field⟩
  case h_3 =>
    cases read
    exact ⟨rfl, trivial⟩
  case h_4 => cases read

/-- A fault is read where each of its fields is given once. -/
theorem ofKind?_of_hasFields (textKeys : HasTextKeys entries) (fields : fault.HasFields entries) :
    ofKind? fault.kindName (.record entries) = some fault := by
  cases fault with
  | latency delay jitter =>
      rcases fields with ⟨first, second⟩
      have once : ∀ name ∈ ["latency_ms", "jitter_ms"], (givenFor name entries).length ≤ 1 := by
        rcases second with second | ⟨second, -⟩ <;> simp [first, second]
      rcases exists_members? textKeys once with ⟨members, known⟩
      have found := lookup_of_members? textKeys known
      refine bind_of_eq_some known ?_
      refine bind_of_eq_some ((required_iff (found _ (by simp))).mpr first) ?_
      exact bind_of_eq_some ((optional_iff (found _ (by simp))).mpr second) rfl
  | bandwidth rate =>
      have once : ∀ name ∈ ["rate_kbps"], (givenFor name entries).length ≤ 1 := by
        rw [HasFields] at fields
        simp [fields]
      rcases exists_members? textKeys once with ⟨members, known⟩
      have found := lookup_of_members? textKeys known
      refine bind_of_eq_some known ?_
      exact bind_of_eq_some ((required_iff (found _ (by simp))).mpr fields) rfl
  | disable => rfl

/-- The kind hides none of the other members. -/
theorem hasFields_without :
    fault.HasFields (entries.filter fun entry => !Value.isText "kind" entry.1) ↔
      fault.HasFields entries := by
  cases fault <;> simp [HasFields, Value.givenFor_without]

/-- Just those records stand for a fault that spell it and can be used. -/
theorem ofSource?_record (textKeys : Value.entriesUsable entries = true → HasTextKeys entries) :
    ofSource? (Value.record entries) = some fault ↔
      Value.entriesUsable entries = true ∧ IsSpelled entries fault := by
  constructor
  · intro read
    rcases Option.bind_eq_some_iff.mp read with ⟨⟨kind, rest⟩, named, read⟩
    rcases Value.variant?_record.mp named with ⟨usable, given, rfl⟩
    rcases hasFields_of_ofKind? ((textKeys usable).filter _) read with ⟨rfl, fields⟩
    exact ⟨usable, given, hasFields_without.mp fields⟩
  · rintro ⟨usable, spelled⟩
    refine bind_of_eq_some (Value.variant?_record.mpr ⟨usable, spelled.kind, rfl⟩) ?_
    apply ofKind?_of_hasFields ((textKeys usable).filter _)
    exact hasFields_without.mpr spelled.fields

/-! ## Records that give the same -/

/-- What a fault is spelled by is given once, so its order does not matter. -/
theorem IsSpelled.of_perm (spelled : IsSpelled entries fault)
    (same : ∀ name ∈ "kind" :: fault.fieldNames,
      (givenFor name entries).Perm (givenFor name others)) : IsSpelled others fault := by
  have once {name : String} {value : Value} (known : name ∈ "kind" :: fault.fieldNames)
      (given : givenFor name entries = [value]) : givenFor name others = [value] :=
    List.perm_singleton.mp (given ▸ (same name known).symm)
  have never {name : String} (known : name ∈ "kind" :: fault.fieldNames)
      (given : givenFor name entries = []) : givenFor name others = [] :=
    List.perm_nil.mp (given ▸ (same name known).symm)
  refine ⟨once (by simp) spelled.kind, ?_⟩
  have fields := spelled.fields
  cases fault with
  | latency delay jitter =>
      exact ⟨once (by simp [fieldNames]) fields.1, fields.2.imp (once (by simp [fieldNames]))
        fun absent => ⟨never (by simp [fieldNames]) absent.1, absent.2⟩⟩
  | bandwidth rate => exact once (by simp [fieldNames]) fields
  | disable => trivial

/-! ## Objects in a text -/

theorem hasTextKeys_of_usable (keys : ∀ entry ∈ entries, Json.IsKey entry.1)
    (usable : Value.entriesUsable entries = true) : HasTextKeys entries := by
  rw [Value.entriesUsable_eq_all, List.all_eq_true] at usable
  intro entry member
  have usableKey := (Bool.and_eq_true_iff.mp (usable entry member)).1
  rcases entry with ⟨key, value⟩
  cases keys _ member with
  | text key => exact ⟨key, rfl⟩
  | unusable => cases usableKey

theorem ofJson?_record {text : String} (parsed : Json.parse text = some (.record entries)) :
    ofJson? text = some fault ↔ Value.entriesUsable entries = true ∧ IsSpelled entries fault := by
  rw [ofJson?, parsed, Option.bind_some]
  exact ofSource?_record (hasTextKeys_of_usable (Json.isKey_of_parseChars parsed))

/-- The text of a fault is read back as the fault, with or without spaces in it. -/
theorem ofJson?_render (fault : Fault) (spacing : Json.Spacing) :
    ofJson? (String.ofList (Json.render spacing 0 fault.toValue)) = some fault := by
  have hasText : Json.HasText Json.deepest fault.toValue := fault.hasText_toValue
  rw [ofJson?, Json.parse_render hasText, Option.bind_some, ofSource?_toValue]

/-- The faults that objects stand for. An object stands for the fault it spells if all of it
can be used. The order of its members makes no difference, and no more does anything usable
that is given besides what spells the fault. A number of a fault is written as a whole one,
and the text of every fault is read back. -/
theorem decoded_as_spelled {text : String} (parsed : Json.parse text = some (.record entries)) :
    (∀ fault, ofJson? text = some fault ↔
      Value.entriesUsable entries = true ∧ IsSpelled entries fault) ∧
    (∀ other others, Json.parse other = some (.record others) → entries.Perm others →
      ofJson? other = ofJson? text) ∧
    (∀ fault other others, ofJson? text = some fault →
      Json.parse other = some (.record others) → Value.entriesUsable others = true →
      (∀ name ∈ "kind" :: fault.fieldNames,
        (givenFor name entries).Perm (givenFor name others)) → ofJson? other = some fault) ∧
    (∀ fuel room chars rest value,
      Json.readValue Json.joinPieces (fuel + 1) room chars = some (.natural value, rest) ↔
        ∃ number, Json.readNumber (Json.skipSpace chars) = some (number, rest) ∧
          number.IsUnsigned value) ∧
    (∀ fault spacing,
      ofJson? (String.ofList (Json.render spacing 0 (toValue fault))) = some fault) := by
  refine ⟨fun fault => ofJson?_record parsed, ?_, ?_, ?_, ofJson?_render⟩
  · intro other others parsedOther same
    apply Option.ext
    intro fault
    rw [ofJson?_record parsed, ofJson?_record parsedOther, Value.entriesUsable_perm same]
    apply and_congr_right
    intro _
    constructor
    · exact fun spelled => spelled.of_perm fun name _ => (Value.perm_givenFor same name).symm
    · exact fun spelled => spelled.of_perm fun name _ => Value.perm_givenFor same name
  · intro fault other others read parsedOther usable same
    have spelled := ((ofJson?_record parsed).mp read).2
    exact (ofJson?_record parsedOther).mpr ⟨usable, spelled.of_perm same⟩
  · exact fun fuel room chars rest value => Json.readValue_eq_natural

/-- A latency whose kind comes last, among members that belong to no latency. -/
theorem latency_among_others :
    ofJson? "\x7b\"rate_kbps\":3,\"latency_ms\":2000,\"a\":[\x7b\x7d],\"a\":true,\"kind\":\"latency\"\x7d" =
      some (.latency 2000 0) := by
  have parsed : Json.parse
      "\x7b\"rate_kbps\":3,\"latency_ms\":2000,\"a\":[\x7b\x7d],\"a\":true,\"kind\":\"latency\"\x7d" =
        some (.record [(.text "rate_kbps", .natural 3), (.text "latency_ms", .natural 2000),
          (.text "a", .list [.record []]), (.text "a", .truth true),
          (.text "kind", .text "latency")]) := by cbv
  exact ((decoded_as_spelled parsed).1 _).mpr ⟨rfl, rfl, rfl, .inr ⟨rfl, rfl⟩⟩

/-- A member that nobody asks for does make a difference where no value can hold it, as here
a number beyond all others. -/
theorem number_beyond_reach :
    ∃ entries, Json.parse "\x7b\"kind\":\"disable\",\"note\":1e999\x7d" = some (.record entries) ∧
      IsSpelled entries .disable ∧
      ofJson? "\x7b\"kind\":\"disable\",\"note\":1e999\x7d" = none := by
  have parsed : Json.parse "\x7b\"kind\":\"disable\",\"note\":1e999\x7d" =
      some (.record [(.text "kind", .text "disable"), (.text "note", .unusable)]) := by cbv
  refine ⟨_, parsed, ⟨rfl, trivial⟩, ?_⟩
  rw [ofJson?, parsed]
  rfl

end Fault

end FaultDrill
