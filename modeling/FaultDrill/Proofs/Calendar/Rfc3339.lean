import Mathlib.Tactic.SplitIfs
import FaultDrill.Calendar.Rfc3339
import FaultDrill.Proofs.Steps
import FaultDrill.Proofs.Text.Digits

/-!
Instants that are written and read again.
-/

namespace FaultDrill.Instant

open Text (EndsDigits)

/-- An instant of a year from zero to 9999 that lies in no leap second. -/
structure IsOrdinary (instant : Instant) : Prop where
  year : 0 ≤ instant.date.year ∧ instant.date.year ≤ 9999
  day : 1 ≤ instant.date.day ∧
    instant.date.day ≤ Date.daysInMonth instant.date.year instant.date.month
  second : instant.second < 86400
  nanosecond : instant.nanosecond < 1000000000

theorem IsOrdinary.month_lt {instant : Instant} (ordinary : instant.IsOrdinary) :
    instant.date.month < 10 ^ 2 := by
  have day := le_trans ordinary.day.1 ordinary.day.2
  unfold Date.daysInMonth at day
  split at day <;> omega

theorem IsOrdinary.day_lt {instant : Instant} (ordinary : instant.IsOrdinary) :
    instant.date.day < 10 ^ 2 := by
  have day := ordinary.day.2
  unfold Date.daysInMonth at day
  split at day <;> first | omega | (split at day <;> omega)

/-! ## Digits and marks -/

theorem isBlank_of_isDigit {char : Char} (digit : char.isDigit = true) :
    Text.isBlank char = false := by
  obtain ⟨least, most⟩ := Text.isDigit_iff.mp digit
  simp only [Text.isBlank, Text.blankRanges, List.any_cons, List.any_nil]
  simp
  omega

theorem skipBlanks_cons {char : Char} (blank : Text.isBlank char = false) (rest : List Char) :
    skipBlanks (char :: rest) = char :: rest := by
  rw [skipBlanks, List.dropWhile_cons, blank]
  rfl

theorem exists_cons_padded (width number : Nat) :
    ∃ first rest, (Text.padded width number).toList = first :: rest ∧ first.isDigit = true := by
  cases text : (Text.padded width number).toList with
  | nil =>
      rw [Text.toList_padded, List.append_eq_nil_iff, Nat.toList_repr] at text
      exact absurd text.2 Nat.toDigits_ne_nil
  | cons first rest =>
      exact ⟨first, rest, rfl, Text.isDigit_of_mem_padded (text ▸ List.mem_cons_self)⟩

theorem skipBlanks_padded (width number : Nat) (rest : List Char) :
    skipBlanks ((Text.padded width number).toList ++ rest) =
      (Text.padded width number).toList ++ rest := by
  obtain ⟨first, others, same, digit⟩ := exists_cons_padded width number
  rw [same]
  exact skipBlanks_cons (isBlank_of_isDigit digit) _

theorem readNumber_padded (width : Nat) {number : Nat} {rest : List Char} (positive : 0 < width)
    (fits : number < 10 ^ width) (ends : EndsDigits rest) :
    readNumber width ((Text.padded width number).toList ++ rest) = some (number, rest) := by
  have taken := Text.takeDigits_append (fun _ => Text.isDigit_of_mem_padded)
    (Text.length_padded fits positive).le ends
  obtain ⟨first, others, same, _⟩ := exists_cons_padded width number
  have value := Text.decimalValue_padded width number
  rw [readNumber, skipBlanks_padded, taken]
  rw [same] at value ⊢
  exact congrArg some (congrArg (·, rest) value)

theorem readYear_padded {number : Nat} {rest : List Char} (fits : number < 10 ^ 4)
    (ends : EndsDigits rest) :
    readYear ((Text.padded 4 number).toList ++ rest) = some ((number : Int), rest) := by
  have read := readNumber_padded 4 (by decide) fits ends
  rw [readYear, skipBlanks_padded]
  obtain ⟨first, others, same, digit⟩ := exists_cons_padded 4 number
  rw [same] at read ⊢
  split
  · cases ‹_ = _›
    cases digit
  · cases ‹_ = _›
    cases digit
  · rw [read]
    rfl

theorem readMark_cons {mark : Char} (printable : Text.isBlank mark = false) (rest : List Char) :
    readMark mark (mark :: rest) = some rest := by
  rw [readMark, skipBlanks_cons printable, Text.after?, if_pos rfl, Text.after?]

/-- A fraction of fewer than nine digits is scaled up to nanoseconds. -/
theorem readFraction_padded (width : Nat) {number : Nat} {rest : List Char} (positive : 0 < width)
    (narrow : width ≤ 9) (fits : number < 10 ^ width) (ends : EndsDigits rest) :
    readFraction ('.' :: ((Text.padded width number).toList ++ rest)) =
      some (number * 10 ^ (9 - width), rest) := by
  have length := Text.length_padded fits positive
  have taken := Text.takeDigits_append (fun _ => Text.isDigit_of_mem_padded)
    (length.trans_le narrow) ends
  have dropped : rest.dropWhile Char.isDigit = rest := by
    cases rest with
    | nil => rfl
    | cons char rest => rw [List.dropWhile_cons, ends char rfl]; rfl
  have value := Text.decimalValue_padded width number
  obtain ⟨first, others, same, _⟩ := exists_cons_padded width number
  rw [readFraction, taken]
  rw [same] at value length ⊢
  dsimp only
  rw [value, length, dropped]
  rfl

theorem readFraction_fractionText {instant : Instant} (bounded : instant.nanosecond < 1000000000)
    {rest : List Char} (ends : EndsDigits rest) (point : rest.head? ≠ some '.') :
    readFraction (instant.fractionText.toList ++ rest) = some (instant.nanosecond, rest) := by
  rw [fractionText, Nat.mod_eq_of_lt bounded]
  -- No digits are written, or three, six or nine, and what was divided off is multiplied back.
  split_ifs with whole milliseconds microseconds
  · rw [whole]
    change readFraction rest = _
    unfold readFraction
    split
    · exact absurd rfl point
    · rfl
  · rw [String.toList_append]
    refine (readFraction_padded 3 (by decide) (by decide) (by omega) ends).trans ?_
    congr 2
    omega
  · rw [String.toList_append]
    refine (readFraction_padded 6 (by decide) (by decide) (by omega) ends).trans ?_
    congr 2
    omega
  · rw [String.toList_append]
    refine (readFraction_padded 9 (by decide) (by decide) bounded ends).trans ?_
    rw [Nat.sub_self, Nat.pow_zero, Nat.mul_one]

/-! ## Whole texts -/

theorem toList_toRfc3339 {instant : Instant} (ordinary : instant.IsOrdinary) :
    instant.toRfc3339.toList =
      (Text.padded 4 instant.date.year.natAbs).toList ++ '-' ::
      ((Text.padded 2 instant.date.month).toList ++ '-' ::
      ((Text.padded 2 instant.date.day).toList ++ 'T' ::
      ((Text.padded 2 (instant.second / 3600)).toList ++ ':' ::
      ((Text.padded 2 (instant.second / 60 % 60)).toList ++ ':' ::
      ((Text.padded 2 (instant.second % 60)).toList ++
      (instant.fractionText.toList ++ ['Z'])))))) := by
  have year : yearText instant.date.year = Text.padded 4 instant.date.year.natAbs :=
    if_pos (by simpa using ordinary.year)
  have clock : instant.clockSecond = instant.second % 60 := by
    have := ordinary.nanosecond
    rw [clockSecond, inLeapSecond, decide_eq_false (by omega)]
    rfl
  simp [toRfc3339, dateText, timeText, year, clock]

/-- No digit follows a mark. -/
theorem endsDigits_cons {mark : Char} (strange : mark.isDigit = false) (rest : List Char) :
    EndsDigits (mark :: rest) := by
  rintro _ ⟨⟩
  exact strange

/-- A point or the mark of universal time follows the seconds. -/
theorem endsDigits_fractionText (instant : Instant) :
    EndsDigits (instant.fractionText.toList ++ ['Z']) := by
  rw [fractionText]
  split_ifs
  · exact endsDigits_cons rfl []
  all_goals
    rw [String.toList_append]
    exact endsDigits_cons rfl _

theorem IsOrdinary.inRange {instant : Instant} (ordinary : instant.IsOrdinary) :
    instant.date.inRange = true := by
  have year := ordinary.year
  rw [Date.inRange, decide_eq_true (by omega), decide_eq_true (by omega)]
  rfl

theorem IsOrdinary.ofParts? {instant : Instant} (ordinary : instant.IsOrdinary) :
    Date.ofParts? instant.date.year.natAbs instant.date.month instant.date.day =
      some instant.date := by
  rw [Date.ofParts?, Int.natAbs_of_nonneg ordinary.year.1]
  exact if_pos (by simp [ordinary.day, ordinary.inRange])

theorem atOffset_zero (instant : Instant) (second : instant.second < 86400) :
    instant.atOffset 0 = instant := by
  rw [atOffset]
  split_ifs
  · omega
  · omega
  · simp

/-- An ordinary instant is read as it was, to the nanosecond. -/
theorem ofRfc3339?_toRfc3339 {instant : Instant} (ordinary : instant.IsOrdinary) :
    ofRfc3339? instant.toRfc3339 = some instant := by
  have second := ordinary.second
  have year := ordinary.year
  have fraction := readFraction_fractionText ordinary.nanosecond
    (endsDigits_cons rfl _ : EndsDigits ['Z']) (by decide)
  rw [ofRfc3339?, toList_toRfc3339 ordinary]
  refine bind_of_eq_some (readYear_padded (by omega) (endsDigits_cons rfl _)) ?_
  refine bind_of_eq_some (readMark_cons rfl _) ?_
  refine bind_of_eq_some
    (readNumber_padded 2 (by decide) ordinary.month_lt (endsDigits_cons rfl _)) ?_
  refine bind_of_eq_some (readMark_cons rfl _) ?_
  refine bind_of_eq_some
    (readNumber_padded 2 (by decide) ordinary.day_lt (endsDigits_cons rfl _)) ?_
  refine bind_of_eq_some rfl ?_
  refine bind_of_eq_some (readNumber_padded 2 (by decide) (by omega) (endsDigits_cons rfl _)) ?_
  refine bind_of_eq_some (readMark_cons rfl _) ?_
  refine bind_of_eq_some (readNumber_padded 2 (by decide) (by omega) (endsDigits_cons rfl _)) ?_
  refine bind_of_eq_some (readMark_cons rfl _) ?_
  refine bind_of_eq_some (readNumber_padded 2 (by decide) (by omega) (endsDigits_fractionText _)) ?_
  refine bind_of_eq_some fraction ?_
  refine bind_of_eq_some (rfl : readOffset (skipBlanks ['Z']) = some (0, [])) ?_
  refine bind_of_eq_some ordinary.ofParts? ?_
  have clock : (⟨instant.date, instant.second / 3600 * 3600 + instant.second / 60 % 60 * 60 +
      instant.second % 60, instant.nanosecond⟩ : Instant) = instant := by
    congr 1
    omega
  have bounds : (decide (instant.second / 3600 < 24) && decide (instant.second / 60 % 60 < 60) &&
      decide (instant.second % 60 ≤ 60) && (skipBlanks []).isEmpty) = true := by
    rw [decide_eq_true (by omega), decide_eq_true (by omega), decide_eq_true (by omega)]
    rfl
  dsimp only
  -- A second of sixty would be read as a leap second.
  rw [if_pos bounds, if_neg (by omega : ¬ instant.second % 60 = 60), clock,
    atOffset_zero instant second, if_pos ordinary.inRange]

end FaultDrill.Instant
