import FaultDrill.Proofs.Calendar.Rfc3339
import FaultDrill.Proofs.Json.RoundTrip
import FaultDrill.Proofs.Steps
import FaultDrill.Proofs.Value.Members
import FaultDrill.Report.Record

/-!
Reports as data. Each part of a report is read back from the value it is written as, and
JSON can hold the value.
-/

namespace FaultDrill

open Source (required nullable)

/-! ## Faults and scenarios -/

theorem Fault.ofSource?_toValue (fault : Fault) : Fault.ofSource? fault.toValue = some fault := by
  cases fault <;> rfl

theorem Scenario.ofSource?_toValue (scenario : Scenario) :
    Scenario.ofSource? scenario.toValue = some scenario := by
  obtain ⟨name, seconds, rate, fault⟩ := scenario
  cases fault with
  | none =>
    refine bind_of_eq_some (members?_ofFields (by simp) (by simp)) ?_
    refine bind_of_eq_some (required_eq_some rfl rfl) ?_
    refine bind_of_eq_some (required_eq_some rfl rfl) ?_
    refine bind_of_eq_some (required_eq_some rfl rfl) ?_
    rfl
  | some fault =>
    have armed : nullable Fault.ofSource? "fault" [("name", .text name),
        ("duration", .natural seconds), ("target_rate", .float rate), ("fault", fault.toValue)] =
          some (some fault) := by
      change (if Source.isNull fault.toValue then some none
        else (Fault.ofSource? fault.toValue).map some) = _
      rw [Fault.ofSource?_toValue]
      cases fault <;> rfl
    refine bind_of_eq_some (members?_ofFields (by simp) (by simp)) ?_
    refine bind_of_eq_some (required_eq_some rfl rfl) ?_
    refine bind_of_eq_some (required_eq_some rfl rfl) ?_
    refine bind_of_eq_some (required_eq_some rfl rfl) ?_
    exact bind_of_eq_some armed rfl

/-! ## Counts -/

theorem count?_count {number : Nat} (fits : number < UInt64.size) :
    count? (count number) = some number :=
  congrArg some (UInt64.toNat_ofNat_of_lt fits)

namespace StatusCounts

/-- Counts as a sorted map of 64-bit numbers has them. -/
structure IsOrdinary (counts : StatusCounts) : Prop where
  ascending : counts.Pairwise fun earlier later => earlier.1 < later.1
  fits : ∀ entry ∈ counts, entry.2 < UInt64.size

theorem statusOfText?_repr (status : UInt16) :
    statusOfText? status.toNat.repr = some status := by
  have digits := Json.readWhole_append (Json.isWhole_repr status.toNat)
    (nofun : Text.EndsDigits [])
  have small : status.toNat < 65536 := status.toNat_lt
  rw [List.append_nil] at digits
  rw [statusOfText?, digits]
  dsimp only
  rw [Text.decimalValue_repr, if_pos small, UInt16.ofNat_toNat]

/-- A status above all others is counted at the end. -/
theorem set_append {status : UInt16} {counts : StatusCounts}
    (greatest : ∀ entry ∈ counts, entry.1 < status) (number : Nat) :
    counts.set status number = counts ++ [(status, number)] := by
  induction counts with
  | nil => rfl
  | cons first rest induction =>
      obtain ⟨least, count⟩ := first
      have less : least < status := greatest _ List.mem_cons_self
      have others := induction fun entry member => greatest entry (List.mem_cons_of_mem _ member)
      rw [set] at others
      rw [set, update, if_neg (UInt16.lt_asymm less), if_neg (UInt16.ne_of_lt less).symm, others]
      rfl

theorem ofEntries?_append {front back : StatusCounts} (ordinary : IsOrdinary (front ++ back)) :
    ofEntries? front
        (back.map fun (status, number) => (.text status.toNat.repr, FaultDrill.count number)) =
      some (front ++ back) := by
  -- The counts that have been read stay in order, so the next one goes to their end.
  induction back generalizing front with
  | nil => simp [ofEntries?]
  | cons first back induction =>
      obtain ⟨status, number⟩ := first
      have fits : number < UInt64.size := ordinary.fits (status, number) (by simp)
      have greatest : ∀ entry ∈ front, entry.1 < status := fun entry member =>
        (List.pairwise_append.mp ordinary.ascending).2.2 entry member _ List.mem_cons_self
      rw [List.append_cons] at ordinary
      have others := induction ordinary
      rw [List.map_cons, ofEntries?]
      refine bind_of_eq_some (rfl : Value.text? (.text status.toNat.repr) = some _) ?_
      refine bind_of_eq_some (statusOfText?_repr status) ?_
      refine bind_of_eq_some (count?_count fits) ?_
      rw [set_append greatest, others, List.append_assoc]
      rfl

theorem ofValue?_toValue {counts : StatusCounts} (ordinary : counts.IsOrdinary) :
    ofValue? counts.toValue = some counts := by
  have read := @ofEntries?_append [] counts ordinary
  rw [toValue, Value.ofFields, List.map_map, ofValue?]
  exact read

end StatusCounts

namespace LatencySummary

structure IsOrdinary (summary : LatencySummary) : Prop where
  samples : summary.samples < UInt64.size
  average : summary.average.isFinite = true
  median : summary.median.isFinite = true
  p95 : summary.p95.isFinite = true
  p99 : summary.p99.isFinite = true
  max : summary.max.isFinite = true

theorem ofValue?_toValue {summary : LatencySummary} (ordinary : summary.IsOrdinary) :
    ofValue? summary.toValue = some summary := by
  refine bind_of_eq_some (members?_ofFields (by simp) (by simp)) ?_
  refine bind_of_eq_some (required_eq_some rfl (count?_count ordinary.samples)) ?_
  refine bind_of_eq_some (required_eq_some rfl rfl) ?_
  refine bind_of_eq_some (required_eq_some rfl rfl) ?_
  refine bind_of_eq_some (required_eq_some rfl rfl) ?_
  refine bind_of_eq_some (required_eq_some rfl rfl) ?_
  exact bind_of_eq_some (required_eq_some rfl rfl) rfl

end LatencySummary

/-! ## Results and reports -/

theorem Instant.ofValue?_text {instant : Instant} (ordinary : instant.IsOrdinary) :
    Instant.ofValue? (.text instant.toRfc3339) = some instant := by
  rw [Instant.ofValue?, Value.text?, Option.bind_some]
  exact ofRfc3339?_toRfc3339 ordinary

namespace ScenarioResult

/-- All numbers of a result are finite, all counts have 64 bits, and its times are ordinary. -/
structure IsOrdinary (result : ScenarioResult) : Prop where
  rate : result.scenario.rate.isFinite = true
  successes : result.successes < UInt64.size
  errors : result.errors < UInt64.size
  fallbacks : result.fallbacks < UInt64.size
  averageLatency : result.averageLatency.isFinite = true
  submitted : result.submitted < UInt64.size
  latency : result.latency.IsOrdinary
  statusCounts : result.statusCounts.IsOrdinary
  achievedRate : result.achievedRate.isFinite = true
  startedAt : result.startedAt.IsOrdinary
  finishedAt : result.finishedAt.IsOrdinary

theorem ofValue?_toValue {result : ScenarioResult} (ordinary : result.IsOrdinary) :
    ofValue? result.toValue = some result := by
  refine bind_of_eq_some (members?_ofFields (by simp [names]) (by simp)) ?_
  refine bind_of_eq_some (required_eq_some rfl (Scenario.ofSource?_toValue _)) ?_
  refine bind_of_eq_some (required_eq_some rfl (count?_count ordinary.successes)) ?_
  refine bind_of_eq_some (required_eq_some rfl (count?_count ordinary.errors)) ?_
  refine bind_of_eq_some (required_eq_some rfl (count?_count ordinary.fallbacks)) ?_
  refine bind_of_eq_some (required_eq_some rfl rfl) ?_
  refine bind_of_eq_some (required_eq_some rfl (count?_count ordinary.submitted)) ?_
  refine bind_of_eq_some
    (required_eq_some rfl (LatencySummary.ofValue?_toValue ordinary.latency)) ?_
  refine bind_of_eq_some
    (required_eq_some rfl (StatusCounts.ofValue?_toValue ordinary.statusCounts)) ?_
  refine bind_of_eq_some (required_eq_some rfl rfl) ?_
  refine bind_of_eq_some (required_eq_some rfl (Instant.ofValue?_text ordinary.startedAt)) ?_
  exact bind_of_eq_some (required_eq_some rfl (Instant.ofValue?_text ordinary.finishedAt)) rfl

end ScenarioResult

namespace Report

structure IsOrdinary (report : Report) : Prop where
  generatedAt : report.generatedAt.IsOrdinary
  results : ∀ result ∈ report.results, result.IsOrdinary

theorem ofValue?_toValue {report : Report} (ordinary : report.IsOrdinary) :
    ofValue? report.toValue = some report := by
  refine bind_of_eq_some (members?_ofFields (by simp [names]) (by simp)) ?_
  refine bind_of_eq_some (required_eq_some rfl rfl) ?_
  refine bind_of_eq_some (required_eq_some rfl (Instant.ofValue?_text ordinary.generatedAt)) ?_
  have results : (report.results.map ScenarioResult.toValue).mapM ScenarioResult.ofValue? =
      some report.results :=
    mapM_map_eq_some fun result member => ScenarioResult.ofValue?_toValue (ordinary.results result member)
  refine bind_of_eq_some (required_eq_some rfl results) ?_
  rfl

end Report

/-! ## What JSON can hold -/

section HasText

open Json (HasText)

variable {room : Nat}

theorem hasText_ofFields {fields : List (String × Value)}
    (fits : ∀ field ∈ fields, HasText room field.2) : HasText (room + 1) (.ofFields fields) := by
  refine .record ?_ ?_
  · rintro entry member
    obtain ⟨field, _, rfl⟩ := List.mem_map.mp member
    exact ⟨field.1, rfl⟩
  · rintro entry member
    obtain ⟨field, among, rfl⟩ := List.mem_map.mp member
    exact fits field among

theorem Fault.hasText_toValue (fault : Fault) : HasText (room + 1) fault.toValue := by
  cases fault <;> exact hasText_ofFields (by simp [HasText.text, HasText.natural])

theorem Scenario.hasText_toValue {scenario : Scenario} (finite : scenario.rate.isFinite = true) :
    HasText (room + 2) scenario.toValue := by
  refine hasText_ofFields ?_
  cases armed : scenario.fault with
  | none => simp [HasText.text, HasText.natural, HasText.float finite]
  | some fault =>
      simp [HasText.text, HasText.natural, HasText.float finite, fault.hasText_toValue]

theorem LatencySummary.hasText_toValue {summary : LatencySummary} (ordinary : summary.IsOrdinary) :
    HasText (room + 1) summary.toValue :=
  hasText_ofFields (by
    simp [count, HasText.natural, HasText.float ordinary.average, HasText.float ordinary.median,
      HasText.float ordinary.p95, HasText.float ordinary.p99, HasText.float ordinary.max])

theorem StatusCounts.hasText_toValue (counts : StatusCounts) :
    HasText (room + 1) counts.toValue := by
  refine hasText_ofFields fun field member => ?_
  obtain ⟨_, _, rfl⟩ := List.mem_map.mp member
  exact .natural _

theorem ScenarioResult.hasText_toValue {result : ScenarioResult} (ordinary : result.IsOrdinary) :
    HasText (room + 3) result.toValue :=
  hasText_ofFields (by
    simp [count, HasText.natural, HasText.text, Scenario.hasText_toValue ordinary.rate,
      HasText.float ordinary.averageLatency, HasText.float ordinary.achievedRate,
      LatencySummary.hasText_toValue ordinary.latency, result.statusCounts.hasText_toValue])

theorem Report.hasText_toValue {report : Report} (ordinary : report.IsOrdinary) :
    HasText (room + 5) report.toValue := by
  have results : HasText (room + 4) (.list (report.results.map ScenarioResult.toValue)) := by
    refine .list fun item member => ?_
    obtain ⟨result, among, rfl⟩ := List.mem_map.mp member
    exact ScenarioResult.hasText_toValue (ordinary.results result among)
  exact hasText_ofFields (by simp [HasText.text, HasText.truth, results])

end HasText

/-- The text of an ordinary report is read back as the report. -/
theorem Report.ofJson?_toJson {report : Report} (ordinary : report.IsOrdinary) :
    ofJson? report.toJson = some report := by
  have parsed : Json.parse report.toJson = some report.toValue :=
    Json.parse_render (Report.hasText_toValue ordinary) .indented
  rw [ofJson?, parsed, Option.bind_some, ofValue?_toValue ordinary]

end FaultDrill
