import FaultDrill.Json.Reader
import FaultDrill.Proofs.Json.Number
import FaultDrill.Proofs.Json.Quoted

/-!
Values that are written and read again. Each kind of value is read from its own text,
whatever follows that belongs to no number; lists and records are read by their parts.
-/

namespace FaultDrill.Json

/-- Values that JSON can hold, nested at most so deep. -/
inductive HasText : Nat → Value → Prop where
  | null {room : Nat} : HasText room .null
  | truth {room : Nat} (value : Bool) : HasText room (.truth value)
  | natural {room : Nat} (value : UInt64) : HasText room (.natural value)
  | negative {room magnitude : Nat} (positive : 0 < magnitude) (fits : magnitude ≤ Nat.pow 2 63) :
      HasText room (.negative (-(magnitude : Int)))
  | float {room : Nat} {value : Float} (finite : value.isFinite = true) :
      HasText room (.float value)
  | text {room : Nat} (value : String) : HasText room (.text value)
  | list {room : Nat} {items : List Value} (fits : ∀ item ∈ items, HasText room item) :
      HasText (room + 1) (.list items)
  | record {room : Nat} {entries : List (Value × Value)}
      (keys : ∀ entry ∈ entries, ∃ key, entry.1 = .text key)
      (fits : ∀ entry ∈ entries, HasText room entry.2) : HasText (room + 1) (.record entries)

/-! ## Spaces -/

theorem skipSpace_cons {char : Char} (printable : isSpace char = false) (rest : List Char) :
    skipSpace (char :: rest) = char :: rest := by
  rw [skipSpace, List.dropWhile_cons, printable]
  rfl

theorem skipSpace_append {spaces : List Char} (space : ∀ char ∈ spaces, isSpace char = true)
    (rest : List Char) : skipSpace (spaces ++ rest) = skipSpace rest := by
  rw [skipSpace, List.dropWhile_append_of_pos space]
  rfl

theorem isSpace_of_mem_before {spacing : Spacing} {level : Nat} {char : Char}
    (member : char ∈ spacing.before level) : isSpace char = true := by
  cases spacing with
  | compact => cases member
  | indented =>
      rcases List.mem_cons.mp member with rfl | member
      · rfl
      · rw [List.eq_of_mem_replicate member]
        rfl

theorem skipSpace_before (spacing : Spacing) (level : Nat) (rest : List Char) :
    skipSpace (spacing.before level ++ rest) = skipSpace rest :=
  skipSpace_append (fun _ => isSpace_of_mem_before) rest

/-- Space or a mark of its own ends a number. -/
theorem endsNumber_before (spacing : Spacing) (level : Nat) {mark : Char} (rest : List Char)
    (ends : EndsNumber (mark :: rest)) : EndsNumber (spacing.before level ++ mark :: rest) := by
  cases spacing with
  | compact => exact ends
  | indented =>
      intro char head
      cases head
      decide

/-! ## How texts begin -/

/-- A text begins with something that is no space and closes nothing. -/
def Begins (text : List Char) : Prop :=
  ∃ first rest, text = first :: rest ∧ isSpace first = false ∧ first ≠ ']' ∧ first ≠ '\x7d'

theorem Begins.skipSpace {text : List Char} (begins : Begins text) (rest : List Char) :
    skipSpace (text ++ rest) = text ++ rest := by
  obtain ⟨first, others, rfl, printable, _⟩ := begins
  exact skipSpace_cons printable (others ++ rest)

/-- A number stands for itself. -/
def IsNumber (value : Value) : Prop :=
  ∃ number : NumberText, number.IsWellFormed ∧ scalarText value = number.written ∧
    number.toValue = value

theorem isNumber_natural (value : UInt64) : IsNumber (.natural value) :=
  ⟨wholeNumber false value.toNat, wellFormed_wholeNumber _ _, by rw [written_wholeNumber]; rfl,
    toValue_natural value⟩

theorem isNumber_negative {magnitude : Nat} (positive : 0 < magnitude)
    (fits : magnitude ≤ Nat.pow 2 63) : IsNumber (.negative (-(magnitude : Int))) := by
  refine ⟨wholeNumber true magnitude, wellFormed_wholeNumber _ _, ?_,
    toValue_negative positive fits⟩
  obtain ⟨less, rfl⟩ := Nat.exists_eq_succ_of_ne_zero positive.ne'
  rw [written_wholeNumber]
  change (Int.negSucc less).repr.toList = '-' :: (less + 1).repr.toList
  simp [Int.repr]

theorem isNumber_float {value : Float} (finite : value.isFinite = true) : IsNumber (.float value) :=
  ⟨numberOf value, wellFormed_numberOf finite, toList_numberText finite, toValue_numberOf finite⟩

/-- How a number begins, nothing else does. -/
theorem ne_of_begins {first other : Char} (begins : first = '-' ∨ first.isDigit = true)
    (strange : other ≠ '-' ∧ other.isDigit = false) : first ≠ other := by
  rintro rfl
  rcases begins with rfl | digit
  · exact strange.1 rfl
  · rw [strange.2] at digit
    cases digit

theorem Begins.append {text : List Char} (begins : Begins text) (rest : List Char) :
    Begins (text ++ rest) := by
  obtain ⟨first, others, rfl, printable⟩ := begins
  exact ⟨first, others ++ rest, rfl, printable⟩

theorem begins_written {number : NumberText} (wellFormed : number.IsWellFormed) :
    Begins number.written := by
  obtain ⟨first, rest, same, begins⟩ := exists_cons_written wellFormed
  have differs (other : Char) (strange : other ≠ '-' ∧ other.isDigit = false) : first ≠ other :=
    ne_of_begins begins strange
  refine ⟨first, rest, same, ?_, differs _ (by decide), differs _ (by decide)⟩
  simp only [isSpace, differs ' ' (by decide), differs '\n' (by decide), differs '\r' (by decide),
    differs '\t' (by decide), decide_false, Bool.or_self]

theorem begins_render (spacing : Spacing) (level : Nat) {room : Nat} {value : Value}
    (hasText : HasText room value) : Begins (render spacing level value) := by
  have number {value : Value} (isNumber : IsNumber value) : Begins (scalarText value) := by
    obtain ⟨number, wellFormed, same, _⟩ := isNumber
    rw [same]
    exact begins_written wellFormed
  cases hasText with
  | null => exact ⟨'n', _, rfl, by decide⟩
  | truth value => cases value <;> exact ⟨_, _, rfl, by decide⟩
  | natural value => exact number (isNumber_natural value)
  | negative positive fits => exact number (isNumber_negative positive fits)
  | float finite => exact number (isNumber_float finite)
  | text value => exact ⟨'"', _, rfl, by decide⟩
  | @list _ items _ => cases items <;> exact ⟨'[', _, by rw [render], by decide⟩
  | @record _ entries _ _ =>
      rcases entries with _ | ⟨⟨key, value⟩, entries⟩ <;>
        exact ⟨'\x7b', _, by rw [render], by decide⟩

/-! ## Scalars -/

/-- A value is read from its text behind spaces. -/
def ReadsBack (room : Nat) (value : Value) : Prop :=
  ∀ spacing level fuel text rest, EndsNumber rest →
    2 * (render spacing level value).length ≤ fuel →
    skipSpace text = render spacing level value ++ rest →
    readValue joinPieces fuel room text = some (value, rest)

theorem readValue_written {fuel room : Nat} {text rest : List Char} {number : NumberText}
    (wellFormed : number.IsWellFormed) (ends : EndsNumber rest)
    (start : skipSpace text = number.written ++ rest) :
    readValue joinPieces (fuel + 1) room text = some (number.toValue, rest) := by
  have read := readNumber_written wellFormed ends
  obtain ⟨first, others, same, begins⟩ := exists_cons_written wellFormed
  rw [same, List.cons_append] at start read
  rw [readValue, start]
  dsimp only
  -- The reader chooses by the first character, and a number has no other kind's.
  split
  case h_7 =>
    rw [read]
    rfl
  all_goals
    injection ‹_ = _› with head _
    exact absurd head (ne_of_begins begins (by decide))

theorem readText_quoted (text rest : List Char) :
    readText joinPieces (text.flatMap escaped ++ '"' :: rest) = some (.text (String.ofList text), rest) := by
  rw [readText, readPieces_append, Option.bind_eq_bind, Option.bind_some]
  dsimp only
  rw [joinPieces_map]

/-- There is fuel for a text that has begun. -/
theorem Begins.exists_succ {text : List Char} (begins : Begins text) {fuel : Nat}
    (fits : 2 * text.length ≤ fuel) : ∃ less, fuel = less + 1 := by
  obtain ⟨first, rest, rfl, _⟩ := begins
  rw [List.length_cons] at fits
  exact ⟨fuel - 1, by omega⟩

section Scalars

variable {room : Nat}

theorem readsBack_null : ReadsBack room .null := by
  intro spacing level fuel text rest ends fits start
  have hasText : HasText room .null := .null
  obtain ⟨less, rfl⟩ := (begins_render spacing level hasText).exists_succ fits
  rw [readValue, start]
  rfl

theorem readsBack_truth (value : Bool) : ReadsBack room (.truth value) := by
  intro spacing level fuel text rest ends fits start
  have hasText : HasText room (.truth value) := .truth value
  obtain ⟨less, rfl⟩ := (begins_render spacing level hasText).exists_succ fits
  rw [readValue, start]
  cases value <;> rfl

theorem readsBack_text (value : String) : ReadsBack room (.text value) := by
  intro spacing level fuel text rest ends fits start
  have hasText : HasText room (.text value) := .text value
  obtain ⟨less, rfl⟩ := (begins_render spacing level hasText).exists_succ fits
  have start : skipSpace text = '"' :: (value.toList.flatMap escaped ++ '"' :: rest) := by
    simp [start, render, scalarText, quoted]
  rw [readValue, start]
  exact (readText_quoted _ _).trans (by rw [String.ofList_toList])

theorem IsNumber.readsBack {value : Value} (isNumber : IsNumber value)
    (scalar : ∀ spacing level, render spacing level value = scalarText value) :
    ReadsBack room value := by
  obtain ⟨number, wellFormed, same, stands⟩ := isNumber
  intro spacing level fuel text rest ends fits start
  rw [scalar, same] at fits start
  obtain ⟨less, rfl⟩ := (begins_written wellFormed).exists_succ fits
  rw [readValue_written wellFormed ends start, stands]

end Scalars

/-! ## Lists and records -/

section Lists

variable {room : Nat} {spacing : Spacing} {level : Nat} {rest : List Char}

/-- A mark that is no part of a number ends it. -/
theorem endsNumber_cons {mark : Char} (rest : List Char)
    (ends : mark.isDigit = false ∧ mark ≠ '.' ∧ mark ≠ 'e' ∧ mark ≠ 'E') :
    EndsNumber (mark :: rest) := by
  rintro _ ⟨⟩
  exact ends

/-- Behind an opening bracket that is not closed at once there are items. -/
theorem readValue_bracket {fuel : Nat} {text inner : List Char}
    (start : skipSpace text = '[' :: inner) (opened : Begins (skipSpace inner)) :
    readValue joinPieces (fuel + 1) (room + 1) text =
      (readItems joinPieces fuel room (skipSpace inner)).map fun (items, rest) => (.list items, rest) := by
  obtain ⟨first, others, same, _, differs, _⟩ := opened
  rw [readValue, start, same]
  split
  case h_5 bracket =>
    cases bracket
    rw [same]
    split
    · injection ‹_ = _› with head _
      exact absurd head differs
    · rfl
  case h_7 bracket _ => exact (bracket inner rfl).elim
  all_goals
    injection ‹_ = _› with head _
    exact absurd head (by decide)

/-- Items are read one after another up to the closing bracket. -/
theorem readItems_render {item : Value} {items : List Value}
    (reads : ∀ item' ∈ item :: items, ReadsBack room item')
    (begins : ∀ item' ∈ item :: items, Begins (render spacing level item'))
    (outer fuel : Nat) (text : List Char)
    (fits : 2 * ((render spacing level item).length +
      (renderItems spacing level items).length) < fuel)
    (start : skipSpace text = render spacing level item ++ (renderItems spacing level items ++
      (spacing.before outer ++ ']' :: rest))) :
    readItems joinPieces fuel room text = some (item :: items, rest) := by
  -- Every item costs a step of its own, for which the comma before it pays.
  induction items generalizing item fuel text with
  | nil =>
      obtain ⟨fuel, rfl⟩ := Nat.exists_eq_succ_of_ne_zero (by omega : fuel ≠ 0)
      have ends : EndsNumber (spacing.before outer ++ ']' :: rest) :=
        endsNumber_before spacing outer rest (endsNumber_cons rest (by decide))
      have first := reads item List.mem_cons_self spacing level fuel text _ ends (by omega) start
      rw [readItems, first, Option.bind_eq_bind, Option.bind_some]
      dsimp only
      rw [skipSpace_before, skipSpace_cons rfl]
      rfl
  | cons next items induction =>
      obtain ⟨fuel, rfl⟩ := Nat.exists_eq_succ_of_ne_zero (by omega : fuel ≠ 0)
      rw [renderItems] at fits start
      simp only [List.length_cons, List.length_append, List.cons_append, List.append_assoc]
        at fits start
      have first := reads item List.mem_cons_self spacing level fuel text _
        (endsNumber_cons _ (by decide)) (by omega) start
      have others := induction (fun item' member => reads item' (List.mem_cons_of_mem _ member))
        (fun item' member => begins item' (List.mem_cons_of_mem _ member)) fuel _ (by omega)
        ((skipSpace_before spacing level _).trans ((begins next (by simp)).skipSpace _))
      rw [readItems, first, Option.bind_eq_bind, Option.bind_some]
      dsimp only
      rw [skipSpace_cons rfl]
      exact congrArg (Option.bind · _) others

theorem readsBack_list {items : List Value} (reads : ∀ item ∈ items, ReadsBack room item)
    (begins : ∀ spacing level, ∀ item ∈ items, Begins (render spacing level item)) :
    ReadsBack (room + 1) (.list items) := by
  intro spacing level fuel text rest ends fits start
  cases items with
  | nil =>
      rw [render] at fits start
      obtain ⟨fuel, rfl⟩ := Nat.exists_eq_succ_of_ne_zero
        (by rintro rfl; simp at fits : fuel ≠ 0)
      rw [readValue, start]
      rfl
  | cons item items =>
      rw [render] at fits start
      simp only [List.length_cons, List.length_append, List.cons_append, List.append_assoc,
        List.nil_append] at fits start
      obtain ⟨fuel, rfl⟩ := Nat.exists_eq_succ_of_ne_zero (by omega : fuel ≠ 0)
      -- The reader skips the spaces twice: to see that the list is not empty, and for the item.
      have opening := begins spacing (level + 1) item List.mem_cons_self
      have opened := opening.skipSpace
        (renderItems spacing (level + 1) items ++ (spacing.before level ++ ']' :: rest))
      have inner := (skipSpace_before spacing (level + 1) _).trans opened
      have content := readItems_render reads (begins spacing (level + 1)) level fuel _ (by omega)
        opened
      rw [readValue_bracket start (by rw [inner]; exact opening.append _), inner, content]
      rfl

end Lists

section Records

variable {room : Nat} {spacing : Spacing} {level : Nat} {rest : List Char}

/-- Behind an opening brace that is not closed at once there are entries. -/
theorem readValue_brace {fuel : Nat} {text inner : List Char}
    (start : skipSpace text = '\x7b' :: inner) (opened : Begins (skipSpace inner)) :
    readValue joinPieces (fuel + 1) (room + 1) text =
      (readEntries joinPieces fuel room (skipSpace inner)).map
        fun (entries, rest) => (.record entries, rest) := by
  obtain ⟨first, others, same, _, _, differs⟩ := opened
  rw [readValue, start, same]
  split
  case h_6 brace =>
    cases brace
    rw [same]
    split
    · injection ‹_ = _› with head _
      exact absurd head differs
    · rfl
  case h_7 brace => exact (brace inner rfl).elim
  all_goals
    injection ‹_ = _› with head _
    exact absurd head (by decide)

theorem skipSpace_colon (spacing : Spacing) (rest : List Char) :
    skipSpace (spacing.colon ++ rest) = ':' :: (spacing.colon.tail ++ rest) := by
  cases spacing <;> rfl

theorem isSpace_of_mem_colon_tail {char : Char} (member : char ∈ spacing.colon.tail) :
    isSpace char = true := by
  cases spacing with
  | compact => cases member
  | indented =>
      rw [List.mem_singleton.mp member]
      rfl

/-- An entry is read up to what follows its value. -/
theorem readEntries_entry {fuel : Nat} {text after : List Char} {key : String} {value : Value}
    (reads : ReadsBack room value) (begins : Begins (render spacing level value))
    (ends : EndsNumber after) (fits : 2 * (render spacing level value).length ≤ fuel)
    (start : skipSpace text =
      keyText (.text key) ++ (spacing.colon ++ (render spacing level value ++ after))) :
    readEntries joinPieces (fuel + 1) room text =
      match skipSpace after with
      | ',' :: rest => do
          let (entries, rest) ← readEntries joinPieces fuel room rest
          some ((.text key, value) :: entries, rest)
      | '\x7d' :: rest => some ([(.text key, value)], rest)
      | _ => none := by
  have key_start : skipSpace text = '"' :: (key.toList.flatMap escaped ++
      '"' :: (spacing.colon ++ (render spacing level value ++ after))) := by
    simp [start, keyText, quoted]
  have value_start : skipSpace (spacing.colon.tail ++ (render spacing level value ++ after)) =
      render spacing level value ++ after :=
    (skipSpace_append (fun _ => isSpace_of_mem_colon_tail) _).trans (begins.skipSpace after)
  have read := reads spacing level fuel _ after ends fits value_start
  have key_read := readText_quoted key.toList
    (spacing.colon ++ (render spacing level value ++ after))
  rw [String.ofList_toList] at key_read
  rw [readEntries, key_start]
  -- No rewriting under the binder of what is read next, since it matches on the rest.
  refine (congrArg (Option.bind · _) key_read).trans ?_
  rw [Option.bind_some]
  dsimp only
  rw [skipSpace_colon]
  refine (congrArg (Option.bind · _) read).trans ?_
  rfl

theorem begins_keyText (key : String) : Begins (keyText (.text key)) :=
  ⟨'"', _, rfl, by decide⟩

/-- Entries are read one after another up to the closing brace. -/
theorem readEntries_render {key : String} {value : Value} {entries : List (Value × Value)}
    (keys : ∀ entry ∈ entries, ∃ key, entry.1 = .text key)
    (reads : ∀ entry ∈ (.text key, value) :: entries, ReadsBack room entry.2)
    (begins : ∀ entry ∈ (.text key, value) :: entries, Begins (render spacing level entry.2))
    (outer fuel : Nat) (text : List Char)
    (fits : 2 * ((render spacing level value).length +
      (renderEntries spacing level entries).length) < fuel)
    (start : skipSpace text = keyText (.text key) ++ (spacing.colon ++
      (render spacing level value ++ (renderEntries spacing level entries ++
        (spacing.before outer ++ '\x7d' :: rest))))) :
    readEntries joinPieces fuel room text = some ((.text key, value) :: entries, rest) := by
  induction entries generalizing key value fuel text with
  | nil =>
      obtain ⟨fuel, rfl⟩ := Nat.exists_eq_succ_of_ne_zero (by omega : fuel ≠ 0)
      have ends : EndsNumber (spacing.before outer ++ '\x7d' :: rest) :=
        endsNumber_before spacing outer rest (endsNumber_cons rest (by decide))
      rw [readEntries_entry (reads _ List.mem_cons_self) (begins _ List.mem_cons_self) ends
        (by dsimp only; omega) start, skipSpace_before, skipSpace_cons rfl]
      rfl
  | cons entry entries induction =>
      obtain ⟨fuel, rfl⟩ := Nat.exists_eq_succ_of_ne_zero (by omega : fuel ≠ 0)
      obtain ⟨_, next⟩ := entry
      obtain ⟨next_key, rfl⟩ : ∃ key, _ = Value.text key := keys _ List.mem_cons_self
      rw [renderEntries] at fits start
      simp only [List.length_cons, List.length_append, List.cons_append, List.append_assoc]
        at fits start
      have others := induction (fun entry member => keys entry (List.mem_cons_of_mem _ member))
        (fun entry member => reads entry (List.mem_cons_of_mem _ member))
        (fun entry member => begins entry (List.mem_cons_of_mem _ member)) fuel _ (by omega)
        ((skipSpace_before spacing level _).trans ((begins_keyText next_key).skipSpace _))
      rw [readEntries_entry (reads _ List.mem_cons_self) (begins _ List.mem_cons_self)
        (endsNumber_cons _ (by decide)) (by dsimp only; omega) start, skipSpace_cons rfl]
      exact congrArg (Option.bind · _) others

theorem readsBack_record {entries : List (Value × Value)}
    (keys : ∀ entry ∈ entries, ∃ key, entry.1 = .text key)
    (reads : ∀ entry ∈ entries, ReadsBack room entry.2)
    (begins : ∀ spacing level, ∀ entry ∈ entries, Begins (render spacing level entry.2)) :
    ReadsBack (room + 1) (.record entries) := by
  intro spacing level fuel text rest ends fits start
  rcases entries with _ | ⟨⟨_, value⟩, entries⟩
  · rw [render] at fits start
    obtain ⟨fuel, rfl⟩ := Nat.exists_eq_succ_of_ne_zero (by rintro rfl; simp at fits : fuel ≠ 0)
    rw [readValue, start]
    rfl
  · obtain ⟨key, rfl⟩ : ∃ key, _ = Value.text key := keys _ List.mem_cons_self
    rw [render] at fits start
    simp only [List.length_cons, List.length_append, List.cons_append, List.append_assoc,
      List.nil_append] at fits start
    obtain ⟨fuel, rfl⟩ := Nat.exists_eq_succ_of_ne_zero (by omega : fuel ≠ 0)
    have opened := (begins_keyText key).skipSpace (spacing.colon ++
      (render spacing (level + 1) value ++ (renderEntries spacing (level + 1) entries ++
        (spacing.before level ++ '\x7d' :: rest))))
    have inner := (skipSpace_before spacing (level + 1) _).trans opened
    have content := readEntries_render
      (fun entry member => keys entry (List.mem_cons_of_mem _ member)) reads
      (begins spacing (level + 1)) level fuel _ (by omega) opened
    rw [readValue_brace start (by rw [inner]; exact (begins_keyText key).append _), inner, content]
    rfl

end Records

/-! ## Whole texts -/

theorem readsBack_of_hasText {room : Nat} {value : Value} (hasText : HasText room value) :
    ReadsBack room value := by
  induction hasText with
  | null => exact readsBack_null
  | truth value => exact readsBack_truth value
  | natural value => exact (isNumber_natural value).readsBack fun _ _ => rfl
  | negative positive fits => exact (isNumber_negative positive fits).readsBack fun _ _ => rfl
  | float finite => exact (isNumber_float finite).readsBack fun _ _ => rfl
  | text value => exact readsBack_text value
  | list fits reads =>
      exact readsBack_list reads fun spacing level item member =>
        begins_render spacing level (fits item member)
  | record keys fits reads =>
      exact readsBack_record keys reads fun spacing level entry member =>
        begins_render spacing level (fits entry member)

/-- A value that JSON can hold is read back from its text. -/
theorem parse_render {value : Value} (hasText : HasText deepest value) (spacing : Spacing) :
    parse (String.ofList (render spacing 0 value)) = some value := by
  have read := readsBack_of_hasText hasText spacing 0 (2 * (render spacing 0 value).length + 2)
    (render spacing 0 value) [] nofun (by omega)
    (by simpa using (begins_render spacing 0 hasText).skipSpace [])
  simp only [parse, parseChars, String.toList_ofList, read]
  rfl

end FaultDrill.Json
