import FaultDrill.Calendar.Rfc3339
import FaultDrill.Decimal.Places
import FaultDrill.Report.Basic

/-!
A report as Markdown: a table of outcomes in the order the scenarios ran, and a
table of latencies if any ran at all. Every row is one line.
-/

namespace FaultDrill.Report

/-- A text as the content of a cell. Bars are escaped and line breaks become
spaces. -/
def cell (text : String) : String :=
  String.ofList (text.toList.flatMap fun char =>
    if char = '|' then ['\\', '|'] else if char = '\r' || char = '\n' then [' '] else [char])

example : cell "a|b\n" = "a\\|b " := by decide +kernel

/-- Cells between bars. -/
def row (cells : List String) : String := "| " ++ " | ".intercalate cells ++ " |"

/-- The row below a header of that many columns. -/
def rule (columns : Nat) : String := "|" ++ "".intercalate (List.replicate columns "---|")

def number (value : Float) : String := Decimal.withPlaces 2 value

def faultText (fault : Option Fault) : String := (fault.map Fault.label).getD "none"

def statusText (counts : StatusCounts) : String :=
  if counts.isEmpty then "-"
  else ", ".intercalate (counts.map fun (status, count) => s!"{status.toNat}: {count}")

def outcomeHeader : List String :=
  ["Scenario", "Success", "Fail", "Fallback", "Avg Latency (ms)"]

def outcomeCells (result : ScenarioResult) : List String :=
  [cell result.scenario.name, result.successes.repr, result.errors.repr, result.fallbacks.repr,
   number result.averageLatency]

def latencyHeader : List String :=
  ["Scenario", "Fault", "Submitted", "p50 (ms)", "p95 (ms)", "p99 (ms)", "Max (ms)",
   "Achieved rps", "Status codes"]

def latencyCells (result : ScenarioResult) : List String :=
  [cell result.scenario.name, faultText result.scenario.fault, result.submitted.repr,
   number result.latency.median, number result.latency.p95, number result.latency.p99,
   number result.latency.max, number result.achievedRate, statusText result.statusCounts]

def table (header : List String) (cells : ScenarioResult → List String)
    (results : List ScenarioResult) : List String :=
  row header :: rule header.length :: results.map fun result => row (cells result)

def interruptedNote : String :=
  "> Run interrupted: only scenarios that ran are listed, and the last one may be cut short."

/-- The lines above the tables. -/
def heading (report : Report) : List String :=
  let instant := report.generatedAt
  [s!"# {report.title}", "", "Generated: " ++ instant.dateText "-" ++ " " ++ instant.timeText ":" ++ " UTC", ""] ++
    if report.interrupted then [interruptedNote, ""] else []

def tables (results : List ScenarioResult) : List String :=
  table outcomeHeader outcomeCells results ++
    if results.isEmpty then []
    else ["", "## Latency distribution", ""] ++ table latencyHeader latencyCells results

/-- Every line with a line break behind it. -/
def unlines (lines : List String) : String := "".intercalate (lines.map (· ++ "\n"))

def toMarkdown (report : Report) : String :=
  unlines (report.heading ++ tables report.results)

end FaultDrill.Report
