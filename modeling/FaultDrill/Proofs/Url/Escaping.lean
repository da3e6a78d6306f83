import FaultDrill.Proofs.Url.Extension

/-!
Escapes and their undoing. A text that holds no escape of its own is what its escaped
form stands for; one that holds an escape stands for fewer bytes than it is written with.
-/

namespace FaultDrill.Url

/-- The bytes of a text. -/
def bytesOf (text : List Char) : List UInt8 := text.flatMap String.utf8EncodeChar

theorem bytesOf_cons (char : Char) (rest : List Char) :
    bytesOf (char :: rest) = String.utf8EncodeChar char ++ bytesOf rest := rfl

theorem bytesOf_injective : Function.Injective bytesOf := by
  intro first second same
  have encoded : first.utf8Encode = second.utf8Encode := by
    rw [List.utf8Encode, List.utf8Encode]
    exact congrArg List.toByteArray same
  exact String.ofList_injective (String.toByteArray_inj.mp (by simpa using encoded))

theorem length_encode_pos (char : Char) : 0 < (String.utf8EncodeChar char).length := by
  rw [String.length_utf8EncodeChar]
  exact char.utf8Size_pos

/-! ## Escapes in a text -/

/-- Whether a text starts with the digits of a byte. -/
def startsWithByte : List Char → Bool
  | high :: low :: _ => (Text.hexValue? high).isSome && (Text.hexValue? low).isSome
  | _ => false

/-- Whether a text has a percent sign with the digits of a byte behind it. -/
def holdsEscape : List Char → Bool
  | [] => false
  | char :: rest => (char = '%' && startsWithByte rest) || holdsEscape rest

theorem unescape_byte {high low : Char} {first second : Nat}
    (isHigh : Text.hexValue? high = some first) (isLow : Text.hexValue? low = some second)
    (rest : List Char) :
    unescape ('%' :: high :: low :: rest) =
      UInt8.ofNat (first * 16 + second) :: unescape rest := by
  rw [unescape, isHigh, isLow]

theorem unescape_cons {char : Char} {rest : List Char}
    (apart : (char = '%' && startsWithByte rest) = false) :
    unescape (char :: rest) = String.utf8EncodeChar char ++ unescape rest := by
  by_cases percent : char = '%'
  · subst percent
    match rest, apart with
    | [], _ => rfl
    | [_], _ => rfl
    | high :: low :: others, apart =>
        rw [unescape]
        cases isHigh : Text.hexValue? high with
        | none => rfl
        | some first =>
            cases isLow : Text.hexValue? low with
            | none => rfl
            | some second => simp [startsWithByte, isHigh, isLow] at apart
  · rw [unescape]
    intro _ _ _ equal
    exact absurd equal percent

/-- Texts are read escape by escape, and character by character in between. -/
@[elab_as_elim]
theorem escapeInduction {motive : List Char → Prop} (text : List Char) (nil : motive [])
    (byte : ∀ high low first second rest, Text.hexValue? high = some first →
      Text.hexValue? low = some second → motive rest → motive ('%' :: high :: low :: rest))
    (char : ∀ char rest, (char = '%' && startsWithByte rest) = false → motive rest →
      motive (char :: rest)) :
    motive text := by
  induction length : text.length using Nat.strong_induction_on generalizing text with
  | _ count induction =>
      subst length
      match text with
      | [] => exact nil
      | first :: rest =>
          cases apart : (first = '%' && startsWithByte rest) with
          | false => exact char first rest apart (induction _ (by simp) rest rfl)
          | true =>
              rw [Bool.and_eq_true, decide_eq_true_eq] at apart
              rw [apart.1]
              match rest, apart.2 with
              | high :: low :: others, starts =>
                  rw [startsWithByte, Bool.and_eq_true] at starts
                  rcases Option.isSome_iff_exists.mp starts.1 with ⟨value, isHigh⟩
                  rcases Option.isSome_iff_exists.mp starts.2 with ⟨other, isLow⟩
                  refine byte high low value other others isHigh isLow (induction _ ?_ others rfl)
                  simp only [List.length_cons]
                  omega

theorem length_unescape_le (text : List Char) :
    (unescape text).length ≤ (bytesOf text).length := by
  induction text using escapeInduction with
  | nil => rfl
  | byte high low first second rest isHigh isLow induction =>
      rw [unescape_byte isHigh isLow]
      simp only [bytesOf_cons, List.length_append, List.length_cons]
      have percent := length_encode_pos '%'
      omega
  | char char rest apart induction =>
      rw [unescape_cons apart, bytesOf_cons, List.length_append, List.length_append]
      omega

theorem unescape_eq_bytesOf_iff (text : List Char) :
    unescape text = bytesOf text ↔ holdsEscape text = false := by
  induction text using escapeInduction with
  | nil => exact iff_of_true rfl rfl
  | byte high low first second rest isHigh isLow induction =>
      have starts : startsWithByte (high :: low :: rest) = true := by
        rw [startsWithByte, isHigh, isLow]
        rfl
      refine iff_of_false (fun same => ?_) (by simp [holdsEscape, starts])
      -- Three characters stand for one byte.
      have lengths := congrArg List.length same
      rw [unescape_byte isHigh isLow] at lengths
      simp only [bytesOf_cons, List.length_append, List.length_cons] at lengths
      have shorter := length_unescape_le rest
      have percent := length_encode_pos '%'
      have digit := length_encode_pos high
      omega
  | char char rest apart induction =>
      rw [unescape_cons apart, bytesOf_cons, List.append_cancel_left_eq, induction, holdsEscape,
        apart, Bool.false_or]

/-! ## Undoing escapes -/

theorem hexValue?_hexDigit (value : Fin 16) :
    Text.hexValue? (hexDigit value) = some value.val := by
  revert value
  decide

theorem unescape_escapeByte (byte : UInt8) (rest : List Char) :
    unescape (escapeByte byte ++ rest) = byte :: unescape rest := by
  have small := byte.toNat_lt
  have isHigh := hexValue?_hexDigit ⟨byte.toNat / 16, by omega⟩
  have isLow := hexValue?_hexDigit ⟨byte.toNat % 16, by omega⟩
  have whole : byte.toNat / 16 * 16 + byte.toNat % 16 = byte.toNat := by omega
  have read := unescape_byte isHigh isLow rest
  rw [whole, UInt8.ofNat_toNat] at read
  exact read

theorem unescape_escapeBytes (bytes : List UInt8) (rest : List Char) :
    unescape (bytes.flatMap escapeByte ++ rest) = bytes ++ unescape rest := by
  induction bytes with
  | nil => rfl
  | cons byte others induction =>
      rw [List.flatMap_cons, List.append_assoc, unescape_escapeByte, induction]
      rfl

theorem isWordChar_of_hexValue? {char : Char} (isHex : (Text.hexValue? char).isSome) :
    isWordChar char := by
  have letter : char.isAlphanum = true := by
    rw [Text.hexValue?] at isHex
    refine Bool.or_eq_true_iff.mpr ?_
    split at isHex
    · rename_i digit
      exact .inr digit
    · simp only [Bool.and_eq_true, decide_eq_true_eq] at isHex
      split at isHex
      · rename_i lower
        have isLower : char.isLower = true := Bool.and_eq_true_iff.mpr
          ⟨decide_eq_true lower.1, decide_eq_true (UInt32.le_trans lower.2 (by decide))⟩
        exact .inl (Bool.or_eq_true_iff.mpr (.inr isLower))
      · split at isHex
        · rename_i upper
          have isUpper : char.isUpper = true :=
            decide_eq_true ⟨upper.1, UInt32.le_trans upper.2 (by decide)⟩
          exact .inl (Bool.or_eq_true_iff.mpr (.inl isUpper))
        · cases isHex
  rw [isWordChar, letter]
  rfl

theorem not_isHex_of_apart {char : Char} (apart : isSetApartInPath char = true) :
    (Text.hexValue? char).isSome = false := by
  rw [← Bool.not_eq_true]
  intro isHex
  rw [isSetApartInPath_of_isWordChar (isWordChar_of_hexValue? isHex)] at apart
  cases apart

theorem escape_cons_of_apart {char : Char} (apart : isSetApartInPath char = true)
    (rest : List Char) :
    escape isSetApartInPath (char :: rest) =
      (String.utf8EncodeChar char).flatMap escapeByte ++ escape isSetApartInPath rest := by
  rw [escape, List.flatMap_cons, if_pos apart]
  rfl

theorem escape_cons_of_kept {char : Char} (kept : isSetApartInPath char = false)
    (rest : List Char) :
    escape isSetApartInPath (char :: rest) = char :: escape isSetApartInPath rest := by
  rw [escape, List.flatMap_cons, if_neg (by simp [kept])]
  rfl

/-- What is escaped starts with a percent sign, and that is no digit. -/
theorem escape_of_apart {char : Char} (apart : isSetApartInPath char = true) (rest : List Char) :
    ∃ others, escape isSetApartInPath (char :: rest) = '%' :: others := by
  rw [escape_cons_of_apart apart]
  cases bytes : String.utf8EncodeChar char with
  | nil => exact absurd bytes String.utf8EncodeChar_ne_nil
  | cons byte others => exact ⟨_, rfl⟩

theorem startsWithByte_escape (text : List Char) :
    startsWithByte (escape isSetApartInPath text) = startsWithByte text := by
  have percent : (Text.hexValue? '%').isSome = false := by decide
  match text with
  | [] => rfl
  | high :: rest =>
      cases apart : isSetApartInPath high with
      | true =>
          rcases escape_of_apart apart rest with ⟨others, escaped⟩
          have notHex := not_isHex_of_apart apart
          rw [escaped]
          cases others <;> cases rest <;> simp [startsWithByte, percent, notHex]
      | false =>
          rw [escape_cons_of_kept apart]
          match rest with
          | [] => rfl
          | low :: others =>
              cases apart : isSetApartInPath low with
              | true =>
                  rcases escape_of_apart apart others with ⟨behind, escaped⟩
                  rw [escaped, startsWithByte, startsWithByte, percent, not_isHex_of_apart apart]
              | false =>
                  rw [escape_cons_of_kept apart]
                  rfl

theorem unescape_escape (text : List Char) :
    unescape (escape isSetApartInPath text) = unescape text := by
  induction text using escapeInduction with
  | nil => rfl
  | byte high low first second rest isHigh isLow induction =>
      have keeps : ∀ {char value}, Text.hexValue? char = some value →
          isSetApartInPath char = false := fun isHex =>
        isSetApartInPath_of_isWordChar (isWordChar_of_hexValue? (by rw [isHex]; rfl))
      rw [escape_cons_of_kept (by decide), escape_cons_of_kept (keeps isHigh),
        escape_cons_of_kept (keeps isLow), unescape_byte isHigh isLow, unescape_byte isHigh isLow,
        induction]
  | char char rest apart induction =>
      rw [unescape_cons apart, ← induction]
      cases set : isSetApartInPath char with
      | true => rw [escape_cons_of_apart set, unescape_escapeBytes]
      | false =>
          rw [escape_cons_of_kept set, unescape_cons]
          rw [startsWithByte_escape]
          exact apart

/-! ## Escaped segments -/

theorem slash_notMem_escapeByte (byte : UInt8) : '/' ∉ escapeByte byte := by
  have digit : ∀ value : Fin 16, hexDigit value ≠ '/' := by decide
  have small := byte.toNat_lt
  have high := digit ⟨byte.toNat / 16, by omega⟩
  have low := digit ⟨byte.toNat % 16, by omega⟩
  simp only [escapeByte, List.mem_cons, List.not_mem_nil, or_false, not_or]
  exact ⟨by decide, high.symm, low.symm⟩

/-- Escapes bring no slash into a segment. -/
theorem slash_notMem_escape {text : List Char} (noSlash : '/' ∉ text) :
    '/' ∉ escape isSetApartInPath text := by
  intro member
  rcases List.mem_flatMap.mp member with ⟨char, among, written⟩
  split at written
  · rcases List.mem_flatMap.mp written with ⟨byte, -, inByte⟩
    exact slash_notMem_escapeByte byte inByte
  · rw [List.mem_singleton.mp written] at noSlash
    exact noSlash among

end FaultDrill.Url
