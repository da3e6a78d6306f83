import Mathlib.Tactic.IntervalCases
import Mathlib.Tactic.SplitIfs
import FaultDrill.Json.Quoted

/-!
Texts between quotes that are written and read again, character by character.
-/

namespace FaultDrill.Json

theorem hexValue?_hexDigit {value : Nat} (small : value < 16) :
    Text.hexValue? (hexDigit value) = some value := by
  interval_cases value <;> rfl

/-- A character is escaped by one letter, by its number, or not at all. -/
theorem escaped_cases (char : Char) :
    (∃ escape, escaped char = ['\\', escape] ∧ unescaped? escape = some char) ∨
    (char.toNat < 32 ∧ escaped char =
      ['\\', 'u', '0', '0', hexDigit (char.toNat / 16), hexDigit (char.toNat % 16)]) ∨
    (escaped char = [char] ∧ char ≠ '"' ∧ char ≠ '\\' ∧ ¬ char.toNat < 32) := by
  rw [escaped]
  split_ifs with quote backslash newline carriage tab backspace feed control
  · exact .inl ⟨_, rfl, by rw [quote]; rfl⟩
  · exact .inl ⟨_, rfl, by rw [backslash]; rfl⟩
  · exact .inl ⟨_, rfl, by rw [newline]; rfl⟩
  · exact .inl ⟨_, rfl, by rw [carriage]; rfl⟩
  · exact .inl ⟨_, rfl, by rw [tab]; rfl⟩
  · refine .inl ⟨_, rfl, ?_⟩
    rw [← Char.ofNat_toNat char, backspace]
    rfl
  · refine .inl ⟨_, rfl, ?_⟩
    rw [← Char.ofNat_toNat char, feed]
    rfl
  · exact .inr (.inl ⟨control, rfl⟩)
  · exact .inr (.inr ⟨rfl, quote, backslash, control⟩)

/-! ## Reading pieces -/

/-- The piece a character is read back as. The long escape gives it as a unit. -/
def pieceOf (char : Char) : Piece :=
  if (escaped char).length = 6 then .unit char.toNat else .char char

theorem readPieces_plain {char : Char} (quote : char ≠ '"') (backslash : char ≠ '\\')
    (printable : ¬ char.toNat < 32) (rest : List Char) :
    readPieces (char :: rest) =
      (readPieces rest).map fun (pieces, rest) => (.char char :: pieces, rest) := by
  rw [readPieces]
  · rw [if_neg printable]
    cases readPieces rest <;> rfl
  all_goals simp [quote, backslash]

theorem readPieces_short {escape char : Char} (short : unescaped? escape = some char)
    (rest : List Char) :
    readPieces ('\\' :: escape :: rest) =
      (readPieces rest).map fun (pieces, rest) => (.char char :: pieces, rest) := by
  rw [readPieces]
  · rw [short]
    cases readPieces rest <;> rfl
  · rintro _ _ _ _ _ rfl
    cases short

theorem readPieces_long {value : Nat} (small : value < 32) (rest : List Char) :
    readPieces
        ('\\' :: 'u' :: '0' :: '0' :: hexDigit (value / 16) :: hexDigit (value % 16) :: rest) =
      (readPieces rest).map fun (pieces, rest) => (.unit value :: pieces, rest) := by
  have zero : Text.hexValue? '0' = some 0 := rfl
  have high := hexValue?_hexDigit (by omega : value / 16 < 16)
  have low := hexValue?_hexDigit (Nat.mod_lt value (by decide : 0 < 16))
  have digits : ['0', '0', hexDigit (value / 16), hexDigit (value % 16)].mapM Text.hexValue? =
      some [0, 0, value / 16, value % 16] := by
    simp [zero, high, low]
  have number : Text.valueOf 16 [0, 0, value / 16, value % 16] = value := by
    change ((0 * 16 + 0) * 16 + value / 16) * 16 + value % 16 = value
    omega
  rw [readPieces, digits, Option.bind_eq_bind, Option.bind_some, number]
  cases readPieces rest <;> rfl

theorem readPieces_escaped (char : Char) (rest : List Char) :
    readPieces (escaped char ++ rest) =
      (readPieces rest).map fun (pieces, rest) => (pieceOf char :: pieces, rest) := by
  rw [pieceOf]
  rcases escaped_cases char with ⟨escape, same, short⟩ | ⟨control, same⟩ | ⟨same, plain⟩
  · rw [same]
    exact readPieces_short short rest
  · rw [same]
    exact readPieces_long control rest
  · rw [same]
    exact readPieces_plain plain.1 plain.2.1 plain.2.2 rest

theorem readPieces_append (text rest : List Char) :
    readPieces (text.flatMap escaped ++ '"' :: rest) = some (text.map pieceOf, rest) := by
  induction text with
  | nil => rfl
  | cons char text induction =>
      rw [List.flatMap_cons, List.append_assoc, readPieces_escaped, induction]
      rfl

/-! ## Joining pieces -/

/-- A unit that is half of no pair is a character of its own. -/
theorem joinPieces_unit {unit : Nat} (single : unit < 0xD800) (pieces : List Piece) :
    joinPieces (.unit unit :: pieces) = (joinPieces pieces).map (Char.ofNat unit :: ·) := by
  have high : isHighSurrogate unit = false := by
    rw [isHighSurrogate, decide_eq_false (by omega : ¬ 0xD800 ≤ unit), Bool.false_and]
  have low : isLowSurrogate unit = false := by
    rw [isLowSurrogate, decide_eq_false (by omega : ¬ 0xDC00 ≤ unit), Bool.false_and]
  rcases pieces with _ | ⟨char | next, pieces⟩
  · simp [joinPieces, high, low]
  · generalize same : Piece.char char :: pieces = others
    rw [joinPieces, high, low]
    · cases joinPieces others <;> rfl
    · rw [← same]
      exact nofun
  · rw [joinPieces, high, low]
    cases joinPieces (.unit next :: pieces) <;> rfl

theorem joinPieces_pieceOf (char : Char) (pieces : List Piece) :
    joinPieces (pieceOf char :: pieces) = (joinPieces pieces).map (char :: ·) := by
  rw [pieceOf]
  split_ifs with long
  · rcases escaped_cases char with ⟨_, same, _⟩ | ⟨control, _⟩ | ⟨same, _⟩
    · simp [same] at long
    · rw [joinPieces_unit (by omega), Char.ofNat_toNat]
    · simp [same] at long
  · rw [joinPieces]
    cases joinPieces pieces <;> rfl

theorem joinPieces_map (text : List Char) : joinPieces (text.map pieceOf) = some text := by
  induction text with
  | nil => rfl
  | cons char text induction => rw [List.map_cons, joinPieces_pieceOf, induction]; rfl

end FaultDrill.Json
