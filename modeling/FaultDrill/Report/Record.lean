import FaultDrill.Calendar.Rfc3339
import FaultDrill.Json.Printer
import FaultDrill.Json.Reader
import FaultDrill.Report.Basic
import FaultDrill.Scenario.Record

/-!
Reports in data, and the JSON text of a report.
-/

namespace FaultDrill

def count (value : Nat) : Value := .natural (UInt64.ofNat value)

def count? (value : Value) : Option Nat := value.natural?.map UInt64.toNat

namespace LatencySummary

def toValue (summary : LatencySummary) : Value :=
  .ofFields
    [("samples", count summary.samples), ("avg_ms", .float summary.average),
     ("p50_ms", .float summary.median), ("p95_ms", .float summary.p95),
     ("p99_ms", .float summary.p99), ("max_ms", .float summary.max)]

def ofValue? (value : Value) : Option LatencySummary := do
  let members ← value.members? ["samples", "avg_ms", "p50_ms", "p95_ms", "p99_ms", "max_ms"]
  let number := fun name => Source.required Value.float? name members
  some
    { samples := ← Source.required count? "samples" members
      average := ← number "avg_ms"
      median := ← number "p50_ms"
      p95 := ← number "p95_ms"
      p99 := ← number "p99_ms"
      max := ← number "max_ms" }

end LatencySummary

namespace StatusCounts

/-- Statuses are written as texts, since they are the keys of a record. -/
def toValue (counts : StatusCounts) : Value :=
  .ofFields (counts.map fun (status, count) => (status.toNat.repr, FaultDrill.count count))

/-- A status from its decimal text, which has no needless zeros in front. -/
def statusOfText? (text : String) : Option UInt16 :=
  match Json.readWhole text.toList with
  | some (digits, []) =>
      let status := Text.decimalValue digits
      if status < 65536 then some (UInt16.ofNat status) else none
  | _ => none

/-- The counts of a record. A status that comes twice has its last count. -/
def ofEntries? (counts : StatusCounts) : List (Value × Value) → Option StatusCounts
  | [] => some counts
  | (key, value) :: rest => do
      let status ← statusOfText? (← key.text?)
      let number ← count? value
      ofEntries? (counts.set status number) rest

def ofValue? : Value → Option StatusCounts
  | .record entries => ofEntries? [] entries
  | _ => none

end StatusCounts

def Instant.ofValue? (value : Value) : Option Instant := value.text?.bind Instant.ofRfc3339?

namespace ScenarioResult

def names : List String :=
  ["scenario", "success_count", "error_count", "fallback_count", "avg_latency_ms", "submitted",
   "latency", "status_codes", "achieved_rps", "started_at", "finished_at"]

def toValue (result : ScenarioResult) : Value :=
  .ofFields
    [("scenario", result.scenario.toValue), ("success_count", count result.successes),
     ("error_count", count result.errors), ("fallback_count", count result.fallbacks),
     ("avg_latency_ms", .float result.averageLatency), ("submitted", count result.submitted),
     ("latency", result.latency.toValue), ("status_codes", result.statusCounts.toValue),
     ("achieved_rps", .float result.achievedRate),
     ("started_at", .text result.startedAt.toRfc3339),
     ("finished_at", .text result.finishedAt.toRfc3339)]

def ofValue? (value : Value) : Option ScenarioResult := do
  let members ← value.members? names
  some
    { scenario := ← Source.required Scenario.ofSource? "scenario" members
      successes := ← Source.required count? "success_count" members
      errors := ← Source.required count? "error_count" members
      fallbacks := ← Source.required count? "fallback_count" members
      averageLatency := ← Source.required Value.float? "avg_latency_ms" members
      submitted := ← Source.required count? "submitted" members
      latency := ← Source.required LatencySummary.ofValue? "latency" members
      statusCounts := ← Source.required StatusCounts.ofValue? "status_codes" members
      achievedRate := ← Source.required Value.float? "achieved_rps" members
      startedAt := ← Source.required Instant.ofValue? "started_at" members
      finishedAt := ← Source.required Instant.ofValue? "finished_at" members }

end ScenarioResult

namespace Report

def names : List String := ["title", "generated_at", "results", "interrupted"]

def toValue (report : Report) : Value :=
  .ofFields
    [("title", .text report.title), ("generated_at", .text report.generatedAt.toRfc3339),
     ("results", .list (report.results.map ScenarioResult.toValue)),
     ("interrupted", .truth report.interrupted)]

def ofValue? (value : Value) : Option Report := do
  let members ← value.members? names
  some
    { title := ← Source.required Value.text? "title" members
      generatedAt := ← Source.required Instant.ofValue? "generated_at" members
      results := ← Source.required (Source.items ScenarioResult.ofValue?) "results" members
      interrupted := ← Source.optional Value.truth? false "interrupted" members }

/-- The report as indented JSON. -/
def toJson (report : Report) : String := Json.pretty report.toValue

def ofJson? (text : String) : Option Report := (Json.parse text).bind ofValue?

end Report

end FaultDrill
