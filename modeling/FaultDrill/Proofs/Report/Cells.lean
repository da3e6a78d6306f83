import Mathlib.Algebra.Group.Nat.Even
import Mathlib.Data.List.DropRight
import Mathlib.Data.List.Forall2
import FaultDrill.Proofs.Report.Lines

/-!
The cells of a report. A bar ends a cell unless a backslash escapes it, and a backslash
escapes whatever comes behind it. Read like that every value has a cell of its own, except
that a bar in the name of a scenario makes one cell more if it is escaped already: then the
backslash that is put in front of it is escaped itself.
-/

namespace FaultDrill.Report

open Text (Lacks)

/-! ## Reading a row -/

/-- Whether the character behind this one is escaped. -/
def escapesNext (escaped : Bool) (char : Char) : Bool := !escaped && char = '\\'

/-- Puts a character in front of the first piece. -/
def onto (char : Char) : List (List Char) → List (List Char)
  | [] => [[char]]
  | piece :: pieces => (char :: piece) :: pieces

/-- The pieces of a text between its bars. Its first character may be escaped from outside. -/
def pieces (escaped : Bool) : List Char → List (List Char)
  | [] => [[]]
  | char :: rest =>
      if !escaped && char = '|' then [] :: pieces false rest
      else onto char (pieces (escapesNext escaped char) rest)

/-- The cells of a row, which has a bar at either end. -/
def readRow (line : String) : Option (List (List Char)) :=
  match pieces false line.toList with
  | [] :: cells => if cells.getLast? = some [] then some cells.dropLast else none
  | _ => none

example : readRow "| a\\|b | 1 |" = some [[' ', 'a', '\\', '|', 'b', ' '], [' ', '1', ' ']] := by
  decide +kernel

theorem onto_append {char : Char} {front : List (List Char)} (filled : front ≠ [])
    (back : List (List Char)) : onto char (front ++ back) = onto char front ++ back := by
  cases front with
  | nil => contradiction
  | cons piece others => rfl

theorem length_onto {char : Char} {found : List (List Char)} (filled : found ≠ []) :
    (onto char found).length = found.length := by
  cases found with
  | nil => contradiction
  | cons piece others => rfl

theorem onto_ne_nil (char : Char) (found : List (List Char)) : onto char found ≠ [] := by
  cases found <;> exact nofun

theorem pieces_ne_nil (escaped : Bool) (text : List Char) : pieces escaped text ≠ [] := by
  cases text with
  | nil => exact nofun
  | cons char rest =>
      rw [pieces]
      split
      · exact nofun
      · exact onto_ne_nil _ _

/-- A bar behind a space ends a cell whatever comes before. -/
theorem pieces_bar (escaped : Bool) (front back : List Char) :
    pieces escaped (front ++ ' ' :: '|' :: back) =
      pieces escaped (front ++ [' ']) ++ pieces false back := by
  induction front generalizing escaped with
  | nil => cases escaped <;> rfl
  | cons char front induction =>
      rw [List.cons_append, List.cons_append, pieces, pieces, induction, induction]
      split
      · rfl
      · rw [onto_append (pieces_ne_nil _ _)]

/-- A content as a cell has it, with a space on either side. -/
def spaced (content : String) : List Char := ' ' :: content.toList ++ [' ']

theorem pieces_cells (contents : List String) :
    pieces false (contents.flatMap fun content => spaced content ++ ['|']) =
      (contents.flatMap fun content => pieces false (spaced content)) ++ [[]] := by
  induction contents with
  | nil => rfl
  | cons content rest induction =>
      have text (back : List Char) : spaced content ++ ['|'] ++ back =
          (' ' :: content.toList) ++ ' ' :: '|' :: back := by simp [spaced]
      rw [List.flatMap_cons, text, pieces_bar, induction, List.flatMap_cons, List.append_assoc]
      rfl

theorem toList_cells (first : String) (rest : List String) :
    ' ' :: (" | ".intercalate (first :: rest)).toList ++ [' ', '|'] =
      (first :: rest).flatMap fun content => spaced content ++ ['|'] := by
  induction rest generalizing first with
  | nil => simp [spaced]
  | cons next rest induction =>
      rw [List.flatMap_cons, ← induction, String.intercalate_cons_cons]
      simp [spaced]

/-- A row is read cell by cell. -/
theorem readRow_row (first : String) (rest : List String) :
    readRow (row (first :: rest)) =
      some ((first :: rest).flatMap fun content => pieces false (spaced content)) := by
  have text : (row (first :: rest)).toList =
      '|' :: (' ' :: (" | ".intercalate (first :: rest)).toList ++ [' ', '|']) := by simp [row]
  have read : pieces false (row (first :: rest)).toList =
      [] :: (((first :: rest).flatMap fun content => pieces false (spaced content)) ++ [[]]) := by
    rw [text, toList_cells, pieces, pieces_cells]
    rfl
  rw [readRow, read]
  simp

/-! ## Contents -/

theorem pieces_of_plain {text : List Char} (plain : ∀ char ∈ text, isMark char = false) :
    pieces false text = [text] := by
  induction text with
  | nil => rfl
  | cons char rest induction =>
      rw [List.forall_mem_cons] at plain
      have noMark := plain.1
      simp only [isMark, Bool.or_eq_false_iff] at noMark
      rw [pieces, escapesNext, noMark.1.2, noMark.2, Bool.and_false, induction plain.2]
      rfl

theorem pieces_spaced {content : String} (plain : Lacks isMark content) :
    pieces false (spaced content) = [spaced content] := by
  apply pieces_of_plain
  rw [spaced, List.forall_mem_append, List.forall_mem_cons]
  exact ⟨⟨rfl, plain⟩, List.forall_mem_singleton.mpr rfl⟩

theorem pieces_of_contents {contents : List String}
    (plain : ∀ content ∈ contents, Lacks isMark content) :
    (contents.flatMap fun content => pieces false (spaced content)) = contents.map spaced := by
  induction contents with
  | nil => rfl
  | cons content rest induction =>
      rw [List.forall_mem_cons] at plain
      rw [List.flatMap_cons, pieces_spaced plain.1, induction plain.2]
      rfl

/-- A text that is read as one piece is that piece. -/
theorem eq_of_length_pieces {escaped : Bool} {text : List Char}
    (single : (pieces escaped text).length = 1) : pieces escaped text = [text] := by
  induction text generalizing escaped with
  | nil => rfl
  | cons char rest induction =>
      rw [pieces] at single ⊢
      split at single
      · have filled := List.length_pos_iff.mpr (pieces_ne_nil false rest)
        rw [List.length_cons] at single
        omega
      · rename_i goesOn
        rw [length_onto (pieces_ne_nil _ _)] at single
        rw [if_neg goesOn, induction single]
        rfl

/-! ## Names -/

/-- The bars of a text that are escaped. Its first character may be escaped from outside. -/
def escapedBars (escaped : Bool) : List Char → Nat
  | [] => 0
  | char :: rest =>
      (if escaped && char = '|' then 1 else 0) + escapedBars (escapesNext escaped char) rest

example : escapedBars false ['a', '\\', '|', '\\', '\\', '|'] = 1 := by decide

/-- A character as a cell has it. -/
def cellChar (char : Char) : List Char :=
  if char = '|' then ['\\', '|'] else if char = '\r' || char = '\n' then [' '] else [char]

theorem toList_cell (text : String) : (cell text).toList = text.toList.flatMap cellChar := by
  rw [cell, String.toList_ofList]
  rfl

/-- The backslash in front of a bar escapes it, unless it is escaped itself. -/
theorem length_pieces_cellChar (escaped : Bool) (char : Char) (rest : List Char) :
    (pieces escaped (cellChar char ++ rest)).length =
      (if escaped && char = '|' then 1 else 0) + (pieces (escapesNext escaped char) rest).length := by
  by_cases bar : char = '|'
  · subst bar
    cases escaped with
    | true =>
        change (pieces false rest).length + 1 = 1 + (pieces false rest).length
        rw [Nat.add_comm]
    | false =>
        change (onto '\\' (onto '|' (pieces false rest))).length = 0 + (pieces false rest).length
        rw [length_onto (onto_ne_nil _ _), length_onto (pieces_ne_nil _ _), Nat.zero_add]
  · have kept : (if escaped && char = '|' then 1 else 0) = 0 := by simp [bar]
    by_cases breaks : char = '\r' || char = '\n'
    · have notBackslash : char ≠ '\\' := by
        rintro rfl
        contradiction
      rw [cellChar, if_neg bar, if_pos breaks, List.singleton_append, pieces, kept]
      simp [escapesNext, notBackslash, length_onto (pieces_ne_nil _ _)]
    · rw [cellChar, if_neg bar, if_neg breaks, List.singleton_append, pieces, kept]
      simp [bar, length_onto (pieces_ne_nil _ _)]

theorem length_pieces_cell (escaped : Bool) (name : List Char) :
    (pieces escaped (name.flatMap cellChar ++ [' '])).length = 1 + escapedBars escaped name := by
  induction name generalizing escaped with
  | nil => cases escaped <;> rfl
  | cons char name induction =>
      rw [List.flatMap_cons, List.append_assoc, length_pieces_cellChar, induction, escapedBars]
      omega

/-- How many backslashes stand at the end of a text. -/
def backslashes (text : List Char) : Nat := (text.rtakeWhile (· = '\\')).length

theorem backslashes_concat (text : List Char) (char : Char) :
    backslashes (text ++ [char]) = if char = '\\' then backslashes text + 1 else 0 := by
  by_cases backslash : char = '\\'
  · rw [backslashes, List.rtakeWhile_concat_pos _ _ _ (by simpa using backslash), if_pos backslash,
      List.length_append]
    rfl
  · rw [backslashes, List.rtakeWhile_concat_neg _ _ _ (by simpa using backslash), if_neg backslash]
    rfl

theorem escapesNext_backslashes (before : List Char) (char : Char) :
    escapesNext (decide (Odd (backslashes before))) char =
      decide (Odd (backslashes (before ++ [char]))) := by
  rw [backslashes_concat, escapesNext]
  by_cases backslash : char = '\\'
  · simp [backslash, ← Nat.not_even_iff_odd, Nat.even_add_one]
  · simp [backslash]

/-- A bar is escaped if an odd number of backslashes stands in front of it. -/
theorem escapedBars_eq_zero_iff (before name : List Char) :
    escapedBars (decide (Odd (backslashes before))) name = 0 ↔
      ∀ front back, name = front ++ '|' :: back → Even (backslashes (before ++ front)) := by
  induction name generalizing before with
  | nil => simp [escapedBars]
  | cons char name induction =>
      rw [escapedBars, escapesNext_backslashes, Nat.add_eq_zero_iff, induction]
      constructor
      · rintro ⟨here, later⟩ front back same
        cases front with
        | nil =>
            cases same
            simpa [← Nat.not_even_iff_odd] using here
        | cons first front =>
            cases same
            simpa using later front back rfl
      · intro even
        constructor
        · by_cases bar : char = '|'
          · have first := even [] name (by rw [bar]; rfl)
            rw [List.append_nil, ← Nat.not_odd_iff_even] at first
            simp [first]
          · simp [bar]
        · rintro front back rfl
          simpa using even (char :: front) back rfl

/-- No bar of the name is escaped before the name is put into a cell. -/
def SparesBars (name : String) : Prop :=
  ∀ front back, name.toList = front ++ '|' :: back → Even (backslashes front)

theorem escapedBars_eq_zero {name : String} :
    escapedBars false name.toList = 0 ↔ SparesBars name :=
  escapedBars_eq_zero_iff [] name.toList

/-! ## Rows -/

/-- A row has a cell for each content, and perhaps more cells. -/
def Holds (contents : List String) (more : Nat) (line : String) : Prop :=
  ∃ cells, readRow line = some cells ∧ cells.length = contents.length + more ∧
    (more = 0 → cells = contents.map spaced)

theorem holds_row (name : String) {others : List String}
    (plain : ∀ content ∈ others, Lacks isMark content) :
    Holds (cell name :: others) (escapedBars false name.toList) (row (cell name :: others)) := by
  have rest := pieces_of_contents plain
  have text : spaced (cell name) = ' ' :: (name.toList.flatMap cellChar ++ [' ']) := by
    rw [spaced, toList_cell]
    rfl
  have length : (pieces false (spaced (cell name))).length = 1 + escapedBars false name.toList := by
    rw [text, ← length_pieces_cell]
    exact length_onto (pieces_ne_nil _ _)
  refine ⟨_, readRow_row _ _, ?_, ?_⟩
  · rw [List.flatMap_cons, rest, List.length_append, length, List.length_map, List.length_cons]
    omega
  · intro none
    rw [none] at length
    rw [List.flatMap_cons, rest, eq_of_length_pieces length]
    rfl

def cellCount (line : String) : Option Nat := (readRow line).map List.length

theorem Holds.cellCount_eq {contents : List String} {more : Nat} {line : String}
    (holds : Holds contents more line) : cellCount line = some (contents.length + more) := by
  rcases holds with ⟨cells, read, length, _⟩
  rw [cellCount, read, Option.map_some, length]

/-- A row has just the cells it is to have if its name has no escaped bar. -/
theorem Holds.cellCount_iff {contents : List String} {name line : String}
    (holds : Holds contents (escapedBars false name.toList) line) :
    cellCount line = some contents.length ↔ SparesBars name := by
  rw [holds.cellCount_eq, ← escapedBars_eq_zero, Option.some.injEq]
  omega

theorem holds_outcomeLine (result : ScenarioResult) :
    Holds (outcomeCells result) (escapedBars false result.scenario.name.toList)
      (outcomeLine result) := by
  rw [← row_outcomeCells]
  exact holds_row _ (lacksMarks_outcomeCells result)

theorem holds_latencyLine (result : ScenarioResult) :
    Holds (latencyCells result) (escapedBars false result.scenario.name.toList)
      (latencyLine result) := by
  rw [← row_latencyCells]
  exact holds_row _ (lacksMarks_latencyCells result)

/-! ## Tables -/

/-- The rows of the table of outcomes, below its header and the rule. -/
def outcomeRows (count : Nat) (below : String) : List String :=
  ((linesOf below).drop 2).take count

/-- The rows of the table of latencies, below the other table, three lines, its own header
and the rule. -/
def latencyRows (count : Nat) (below : String) : List String :=
  ((linesOf below).drop (count + 7)).take count

theorem outcomeRows_tables (results : List ScenarioResult) :
    outcomeRows results.length (unlines (tables results)) = results.map outcomeLine := by
  rw [outcomeRows, linesOf_unlines (lacksBreaks_tables results), tables_eq, List.append_assoc,
    List.append_assoc]
  exact List.take_left' (List.length_map _)

theorem latencyRows_tables (results : List ScenarioResult) :
    latencyRows results.length (unlines (tables results)) = results.map latencyLine := by
  rw [latencyRows, linesOf_unlines (lacksBreaks_tables results), tables_eq]
  cases results with
  | nil => rfl
  | cons result rest =>
      have above (header rule : String) (rows gap others : List String) (three : gap.length = 5) :
          ([header, rule] ++ rows ++ (gap ++ others) ++ [""]).drop (rows.length + 7) =
            others ++ [""] := by
        rw [← List.append_assoc, List.append_assoc _ others]
        apply List.drop_left'
        simp [three]
      have length : (result :: rest).length = ((result :: rest).map outcomeLine).length := by simp
      rw [List.isEmpty_cons, if_neg Bool.false_ne_true]
      nth_rewrite 2 [length]
      rw [above _ _ _ _ _ rfl]
      exact List.take_left' (List.length_map _)

/-- Every value of a result has a cell of its own in both tables, but for each bar of its
name that is escaped already there is one cell more. -/
theorem cells_by_name (report : Report) :
    ∃ below, report.toMarkdown = unlines report.heading ++ below ∧
      let outcomes := outcomeRows report.results.length below
      let latencies := latencyRows report.results.length below
      List.Forall₂ (fun result => Holds (outcomeCells result)
        (escapedBars false result.scenario.name.toList)) report.results outcomes ∧
      List.Forall₂ (fun result => Holds (latencyCells result)
        (escapedBars false result.scenario.name.toList)) report.results latencies ∧
      ((∀ line ∈ outcomes, cellCount line = some 5) ∧
          (∀ line ∈ latencies, cellCount line = some 9) ↔
        ∀ result ∈ report.results, SparesBars result.scenario.name) := by
  refine ⟨unlines (tables report.results), toMarkdown_eq report, ?_⟩
  rw [outcomeRows_tables, latencyRows_tables]
  refine ⟨?_, ?_, ?_⟩
  · rw [List.forall₂_map_right_iff, List.forall₂_same]
    exact fun result _ => holds_outcomeLine result
  · rw [List.forall₂_map_right_iff, List.forall₂_same]
    exact fun result _ => holds_latencyLine result
  · simp only [List.forall_mem_map]
    constructor
    · exact fun exact result member =>
        (holds_outcomeLine result).cellCount_iff.mp (exact.1 result member)
    · intro spares
      exact ⟨fun result member => (holds_outcomeLine result).cellCount_iff.mpr (spares result member),
        fun result member => (holds_latencyLine result).cellCount_iff.mpr (spares result member)⟩

/-- The backslash in the name escapes the one that was to escape the bar. -/
theorem escaped_bar_adds_cell :
    let result : ScenarioResult :=
      { scenario := ⟨"a\\|b", 1, 1, none⟩, successes := 1, errors := 0, fallbacks := 0
        averageLatency := 10, submitted := 1, latency := ⟨1, 10, 10, 10, 10, 10⟩
        statusCounts := [(200, 1)], achievedRate := 1
        startedAt := ⟨⟨2026, 5, 4⟩, 33342, 0⟩, finishedAt := ⟨⟨2026, 5, 4⟩, 33343, 0⟩ }
    let report : Report := ⟨"Drill", ⟨⟨2026, 5, 4⟩, 33360, 0⟩, [result], false⟩
    ∃ below, report.toMarkdown = unlines report.heading ++ below ∧
      (outcomeRows 1 below).map cellCount = [some 6] ∧
      (latencyRows 1 below).map cellCount = [some 10] := by
  intro result report
  have outcomes : outcomeRows 1 (unlines (tables [result])) = [outcomeLine result] :=
    outcomeRows_tables [result]
  have latencies : latencyRows 1 (unlines (tables [result])) = [latencyLine result] :=
    latencyRows_tables [result]
  have bars : escapedBars false result.scenario.name.toList = 1 := by decide +kernel
  refine ⟨unlines (tables [result]), toMarkdown_eq report, ?_, ?_⟩
  · rw [outcomes, List.map_singleton, (holds_outcomeLine result).cellCount_eq, bars]
    rfl
  · rw [latencies, List.map_singleton, (holds_latencyLine result).cellCount_eq, bars]
    rfl

end FaultDrill.Report
