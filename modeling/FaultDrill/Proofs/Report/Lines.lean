import FaultDrill.Proofs.Text.Marks
import FaultDrill.Proofs.Text.Splitting
import FaultDrill.Report.Markdown

/-!
The lines of a report. Whatever is put into a table stays on the line of its row, so below
the heading there is a line for each row of the two tables, in the order of the results,
and no other line but those that are always there.
-/

namespace FaultDrill.Report

open Text (Lacks)

/-! ## Contents of cells -/

def isBreak (char : Char) : Bool := char = '\n' || char = '\r'

/-- Characters that end a line or a cell, and the one that takes the meaning from the
character behind it. -/
def isMark (char : Char) : Bool := isBreak char || char = '|' || char = '\\'

theorem isMark_of_isBreak (char : Char) (breaks : isBreak char = true) : isMark char = true := by
  rw [isMark, breaks]
  rfl

theorem isMark_of_isDigit (char : Char) (digit : char.isDigit = true) : isMark char = false := by
  have differs (other : Char) (strange : other.isDigit = false) : char ≠ other := by
    rintro rfl
    rw [strange] at digit
    contradiction
  simp [isMark, isBreak, differs '\n' rfl, differs '\r' rfl, differs '|' rfl, differs '\\' rfl]

theorem lacksMarks_repr (number : Nat) : Lacks isMark number.repr :=
  Lacks.repr isMark_of_isDigit number

theorem lacksMarks_placeText (units places : Nat) : Lacks isMark (Decimal.placeText units places) := by
  intro char member
  simp only [Decimal.placeText, String.toList_ofList, List.mem_append, List.mem_cons] at member
  -- The zeros in front and the digits are cut in two, and the point is put between them.
  have digits : ∀ count, ∀ char ∈ List.replicate count '0' ++ units.repr.toList,
      isMark char = false := by
    intro count char member
    rcases List.mem_append.mp member with zero | digit
    · rw [List.eq_of_mem_replicate zero]
      rfl
    · exact lacksMarks_repr units char digit
  rcases member with before | rfl | behind
  · exact digits _ char (List.mem_of_mem_take before)
  · rfl
  · exact digits _ char (List.mem_of_mem_drop behind)

theorem lacksMarks_number (value : Float) : Lacks isMark (number value) := by
  have sign : Lacks isMark (if value.toBits >>> 63 = 1 then "-" else "") := by
    split <;> exact Lacks.of_all rfl
  rw [number, Decimal.withPlaces]
  split
  · exact Lacks.of_all rfl
  · split
    · exact sign.append (Lacks.of_all rfl)
    · exact sign.append (lacksMarks_placeText _ _)

theorem lacksMarks_faultText (fault : Option Fault) : Lacks isMark (faultText fault) := by
  cases fault with
  | none => exact Lacks.of_all rfl
  | some fault =>
      cases fault with
      | latency delay jitter =>
          exact ((((Lacks.of_all rfl).append (lacksMarks_repr _)).append (Lacks.of_all rfl)).append
            (lacksMarks_repr _)).append (Lacks.of_all rfl)
      | bandwidth rate =>
          exact ((Lacks.of_all rfl).append (lacksMarks_repr _)).append (Lacks.of_all rfl)
      | disable => exact Lacks.of_all rfl

theorem lacksMarks_statusText (counts : StatusCounts) : Lacks isMark (statusText counts) := by
  rw [statusText]
  split
  · exact Lacks.of_all rfl
  · apply Lacks.intercalate (Lacks.of_all rfl)
    intro part member
    rcases List.mem_map.mp member with ⟨⟨status, count⟩, _, rfl⟩
    exact ((lacksMarks_repr _).append (Lacks.of_all rfl)).append (lacksMarks_repr _)

/-- The name of a scenario is the one text in a row that can be anything. -/
theorem lacksBreaks_cell (text : String) : Lacks isBreak (cell text) := by
  intro char member
  rw [cell, String.toList_ofList] at member
  rcases List.mem_flatMap.mp member with ⟨original, _, member⟩
  split at member
  · rcases List.mem_cons.mp member with rfl | member
    · rfl
    · rw [List.mem_singleton.mp member]
      rfl
  · split at member
    · rw [List.mem_singleton.mp member]
      rfl
    · rw [List.mem_singleton.mp member]
      rename_i plain
      simpa [isBreak, and_comm] using plain

/-! ## Rows -/

/-- All cells of a result but the first, which has its name, are plain. -/
theorem lacksMarks_outcomeCells (result : ScenarioResult) :
    ∀ cell ∈ (outcomeCells result).tail, Lacks isMark cell := by
  simp [outcomeCells, lacksMarks_repr, lacksMarks_number]

theorem lacksMarks_latencyCells (result : ScenarioResult) :
    ∀ cell ∈ (latencyCells result).tail, Lacks isMark cell := by
  simp [latencyCells, lacksMarks_repr, lacksMarks_number, lacksMarks_faultText,
    lacksMarks_statusText]

theorem lacksBreaks_row (name : String) {others : List String}
    (plain : ∀ cell ∈ others, Lacks isMark cell) : Lacks isBreak (row (cell name :: others)) := by
  have cells : ∀ content ∈ cell name :: others, Lacks isBreak content := by
    rw [List.forall_mem_cons]
    exact ⟨lacksBreaks_cell name, fun _ member => (plain _ member).weaken isMark_of_isBreak⟩
  exact ((Lacks.of_all rfl).append (Lacks.intercalate (Lacks.of_all rfl) cells)).append
    (Lacks.of_all rfl)

theorem lacksBreaks_table {header : List String} {cells : ScenarioResult → List String}
    (results : List ScenarioResult) (isHeader : Lacks isBreak (row header))
    (isRule : Lacks isBreak (rule header.length))
    (areRows : ∀ result, Lacks isBreak (row (cells result))) :
    ∀ line ∈ table header cells results, Lacks isBreak line := by
  simp only [table, List.forall_mem_cons, List.forall_mem_map]
  exact ⟨isHeader, isRule, fun result _ => areRows result⟩

theorem lacksBreaks_tables (results : List ScenarioResult) :
    ∀ line ∈ tables results, Lacks isBreak line := by
  rw [tables, List.forall_mem_append]
  constructor
  · exact lacksBreaks_table results (Lacks.of_all rfl) (Lacks.of_all rfl)
      fun result => lacksBreaks_row _ (lacksMarks_outcomeCells result)
  · split
    · exact nofun
    · rw [List.forall_mem_append]
      constructor
      · simp only [List.forall_mem_cons]
        exact ⟨Lacks.of_all rfl, Lacks.of_all rfl, Lacks.of_all rfl, nofun⟩
      · exact lacksBreaks_table results (Lacks.of_all rfl) (Lacks.of_all rfl)
          fun result => lacksBreaks_row _ (lacksMarks_latencyCells result)

/-! ## Lines of a text -/

/-- The lines of a text, and what follows the last line break. -/
def linesOf (text : String) : List String := (Text.splitAt '\n' text.toList).map String.ofList

theorem unlines_cons (line : String) (rest : List String) :
    unlines (line :: rest) = line ++ "\n" ++ unlines rest := by
  cases rest with
  | nil => rw [unlines, unlines, List.map_singleton, String.intercalate_singleton]; simp
  | cons next rest =>
      rw [unlines, List.map_cons, List.map_cons, String.intercalate_cons_cons, unlines,
        List.map_cons, String.append_empty]

theorem unlines_append (front back : List String) :
    unlines (front ++ back) = unlines front ++ unlines back := by
  induction front with
  | nil => simp [unlines]
  | cons line rest induction =>
      rw [List.cons_append, unlines_cons, unlines_cons, induction]
      simp only [String.append_assoc]

theorem linesOf_unlines {lines : List String} (single : ∀ line ∈ lines, Lacks isBreak line) :
    linesOf (unlines lines) = lines ++ [""] := by
  induction lines with
  | nil => rfl
  | cons line rest induction =>
      have others := induction fun other member => single other (List.mem_cons_of_mem _ member)
      have first : '\n' ∉ line.toList := (single line List.mem_cons_self).notMem rfl
      have text : (line ++ "\n" ++ unlines rest).toList =
          line.toList ++ '\n' :: (unlines rest).toList := by simp
      rw [linesOf] at others
      rw [unlines_cons, linesOf, text, Text.splitAt_append, Text.splitAt_of_notMem first,
        List.map_append, others, List.map_singleton, String.ofList_toList]
      rfl

theorem lacks_unlines {isMark : Char → Bool} (ends : isMark '\n' = false) {lines : List String}
    (areLines : ∀ line ∈ lines, Lacks isMark line) : Lacks isMark (unlines lines) := by
  apply Lacks.intercalate (Lacks.of_all rfl)
  rw [List.forall_mem_map]
  exact fun line member => (areLines line member).append (Lacks.of_all (by simp [ends]))

/-! ## Carriage returns -/

def isReturn (char : Char) : Bool := char = '\r'

theorem isBreak_of_isReturn (char : Char) (returns : isReturn char = true) :
    isBreak char = true := by
  rw [isReturn, decide_eq_true_eq] at returns
  rw [returns]
  rfl

theorem isReturn_of_isDigit (char : Char) (digit : char.isDigit = true) :
    isReturn char = false := by
  have plain := isMark_of_isDigit char digit
  simp only [isMark, isBreak, Bool.or_eq_false_iff] at plain
  exact plain.1.1.2

theorem lacksReturns_iff {text : String} : Lacks isReturn text ↔ '\r' ∉ text.toList := by
  constructor
  · exact fun lacks => lacks.notMem rfl
  · intro absent char member
    rw [isReturn, decide_eq_false_iff_not]
    rintro rfl
    exact absent member

/-- The title is the one part of a heading that can be anything. -/
theorem lacksReturns_heading {report : Report} (isTitle : Lacks isReturn report.title) :
    ∀ line ∈ report.heading, Lacks isReturn line := by
  have stamp : Lacks isReturn ("Generated: " ++ report.generatedAt.dateText "-" ++ " " ++
      report.generatedAt.timeText ":" ++ " UTC") := by
    have date : Lacks isReturn (report.generatedAt.dateText "-") :=
      Lacks.dateText isReturn_of_isDigit rfl rfl (Lacks.of_all rfl) _
    have time : Lacks isReturn (report.generatedAt.timeText ":") :=
      Lacks.timeText isReturn_of_isDigit (Lacks.of_all rfl) _
    exact ((((Lacks.of_all rfl).append date).append (Lacks.of_all rfl)).append time).append
      (Lacks.of_all rfl)
  rw [heading, List.forall_mem_append]
  constructor
  · simp only [List.forall_mem_cons]
    exact ⟨(Lacks.of_all rfl).append isTitle, Lacks.of_all rfl, stamp, Lacks.of_all rfl, nofun⟩
  · split
    · simp only [List.forall_mem_cons]
      exact ⟨Lacks.of_all (by decide +kernel), Lacks.of_all rfl, nofun⟩
    · exact nofun

theorem toMarkdown_eq (report : Report) :
    report.toMarkdown = unlines report.heading ++ unlines (tables report.results) :=
  unlines_append _ _

theorem lacksReturns_toMarkdown_iff (report : Report) :
    Lacks isReturn report.toMarkdown ↔ Lacks isReturn report.title := by
  constructor
  · intro lacks char member
    apply lacks
    rw [toMarkdown_eq, heading, List.cons_append, unlines_cons]
    have title : char ∈ ("# " ++ report.title).toList := by simp [member]
    simp only [String.toList_append, List.mem_append] at title ⊢
    exact .inl (.inl (.inl title))
  · intro isTitle
    apply lacks_unlines rfl
    rw [List.forall_mem_append]
    exact ⟨lacksReturns_heading isTitle, fun line member =>
      (lacksBreaks_tables report.results line member).weaken isBreak_of_isReturn⟩

/-! ## Tables line by line -/

/-- A result in the table of outcomes, as it reads. -/
def outcomeLine (result : ScenarioResult) : String :=
  let name := cell result.scenario.name
  let average := number result.averageLatency
  s!"| {name} | {result.successes} | {result.errors} | {result.fallbacks} | {average} |"

/-- A result in the table of latencies, as it reads. -/
def latencyLine (result : ScenarioResult) : String :=
  let name := cell result.scenario.name
  let fault := faultText result.scenario.fault
  let median := number result.latency.median
  let p95 := number result.latency.p95
  let p99 := number result.latency.p99
  let max := number result.latency.max
  let rate := number result.achievedRate
  let statuses := statusText result.statusCounts
  s!"| {name} | {fault} | {result.submitted} | {median} | {p95} | {p99} | {max} | {rate} | {statuses} |"

theorem row_outcomeCells (result : ScenarioResult) :
    row (outcomeCells result) = outcomeLine result := by
  simp only [row, outcomeCells, outcomeLine, String.intercalate_cons_cons,
    String.intercalate_singleton, String.append_assoc, toString]

theorem row_of_nine (first second third fourth fifth sixth seventh eighth ninth : String) :
    row [first, second, third, fourth, fifth, sixth, seventh, eighth, ninth] =
      s!"| {first} | {second} | {third} | {fourth} | {fifth} | {sixth} | {seventh} | {eighth} | {ninth} |" := by
  simp only [row, String.intercalate_cons_cons, String.intercalate_singleton, String.append_assoc,
    toString]

theorem row_latencyCells (result : ScenarioResult) :
    row (latencyCells result) = latencyLine result := by
  apply row_of_nine

theorem tables_eq (results : List ScenarioResult) :
    tables results =
      ["| Scenario | Success | Fail | Fallback | Avg Latency (ms) |", "|---|---|---|---|---|"] ++
      results.map outcomeLine ++
      if results.isEmpty then []
      else
        ["", "## Latency distribution", "",
         "| Scenario | Fault | Submitted | p50 (ms) | p95 (ms) | p99 (ms) | Max (ms) | Achieved rps | Status codes |",
         "|---|---|---|---|---|---|---|---|---|"] ++
        results.map latencyLine := by
  have outcomes : (results.map fun result => row (outcomeCells result)) = results.map outcomeLine :=
    List.map_congr_left fun result _ => row_outcomeCells result
  have latencies :
      (results.map fun result => row (latencyCells result)) = results.map latencyLine :=
    List.map_congr_left fun result _ => row_latencyCells result
  have outcomeTop : row outcomeHeader =
      "| Scenario | Success | Fail | Fallback | Avg Latency (ms) |" := by decide +kernel
  have latencyTop : row latencyHeader = "| Scenario | Fault | Submitted | p50 (ms) | p95 (ms) | p99 (ms) | Max (ms) | Achieved rps | Status codes |" := by
    decide +kernel
  have outcomeRule : rule outcomeHeader.length = "|---|---|---|---|---|" := by decide +kernel
  have latencyRule : rule latencyHeader.length = "|---|---|---|---|---|---|---|---|---|" := by
    decide +kernel
  rw [tables, table, table, outcomes, latencies, outcomeTop, latencyTop, outcomeRule, latencyRule]
  simp only [List.cons_append, List.nil_append]

/-- Below the heading of a report there are just the lines of its two tables: a row for each
result in the order of the results, with the latencies only if there is any, and nothing
behind the last line break. Only a title can bring a carriage return into a report. -/
theorem tables_line_by_line (report : Report) :
    ∃ below, report.toMarkdown = unlines report.heading ++ below ∧
      linesOf below =
        ["| Scenario | Success | Fail | Fallback | Avg Latency (ms) |", "|---|---|---|---|---|"] ++
        report.results.map outcomeLine ++
        (if report.results.isEmpty then []
        else
          ["", "## Latency distribution", "",
           "| Scenario | Fault | Submitted | p50 (ms) | p95 (ms) | p99 (ms) | Max (ms) | Achieved rps | Status codes |",
           "|---|---|---|---|---|---|---|---|---|"] ++
          report.results.map latencyLine) ++
        [""] ∧
      '\r' ∉ below.toList ∧
      ('\r' ∈ report.toMarkdown.toList ↔ '\r' ∈ report.title.toList) := by
  have single := lacksBreaks_tables report.results
  have returns : Lacks isReturn (unlines (tables report.results)) :=
    lacks_unlines rfl fun line member => (single line member).weaken isBreak_of_isReturn
  refine ⟨unlines (tables report.results), toMarkdown_eq report, ?_, returns.notMem rfl, ?_⟩
  · rw [linesOf_unlines single, tables_eq]
  · rw [← not_iff_not, ← lacksReturns_iff, ← lacksReturns_iff]
    exact lacksReturns_toMarkdown_iff report

end FaultDrill.Report
