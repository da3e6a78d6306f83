import FaultDrill.Proofs.Report.History
import FaultDrill.Proofs.Report.Record

/-!
The JSON twin of a report. It is the last file that is written, and it says all that the
report says.
-/

namespace FaultDrill.Output

open Disk

variable {output : Output} {mishaps : Mishaps} {disk after : Disk} {path : String} {report : Report}

theorem read_json_of_done (wanted : output.writeJson = true)
    (done : output.writeAmid mishaps report disk = .ok path after) :
    ∃ stem, path = output.markdownPath stem ∧
      after.read (output.jsonPath stem) = .ok report.toJson := by
  rw [writeAmid] at done
  obtain ⟨_, _, _, done⟩ := bind_eq_done.mp done
  obtain ⟨_, _, _, done⟩ := bind_eq_done.mp done
  obtain ⟨stem, _, _, done⟩ := bind_eq_done.mp done
  obtain ⟨_, _, _, done⟩ := bind_eq_done.mp done
  rw [if_pos wanted] at done
  obtain ⟨_, _, also, done⟩ := bind_eq_done.mp done
  cases done
  exact ⟨stem, rfl, read_eq_ok.mpr (find_of_write (Writing.writeFile_eq_done also))⟩

/-- The twin of a report is read back as the report, to the bit of every number. -/
theorem twin_lossless (ordinary : report.IsOrdinary) :
    Report.ofJson? report.toJson = some report ∧
    ∀ (output : Output) (mishaps : Mishaps) (disk after : Disk) (path : String),
      output.writeJson = true → output.writeAmid mishaps report disk = .ok path after →
        ∃ stem text, path = output.markdownPath stem ∧
          after.read (output.jsonPath stem) = .ok text ∧ Report.ofJson? text = some report := by
  have lossless := Report.ofJson?_toJson ordinary
  refine ⟨lossless, fun output mishaps disk after path wanted done => ?_⟩
  obtain ⟨stem, named, read⟩ := read_json_of_done wanted done
  exact ⟨stem, report.toJson, named, read, lossless⟩

/-- One row with a fault, two statuses and numbers that no short decimal equals. -/
theorem twin_lossless_one_row :
    let result : ScenarioResult :=
      { scenario := ⟨"Slow \"dependency\"\n", 15, 0.1, some (.latency 2000 100)⟩
        successes := 18446744073709551615, errors := 1, fallbacks := 0
        averageLatency := 918936242501.4645, submitted := 2
        latency := ⟨2, 1e-300, -0.0, 5.3845218650813046e-15, 1e22, 5e-324⟩
        statusCounts := [(200, 1), (503, 1)], achievedRate := 19.999999999999996
        startedAt := ⟨⟨2026, 5, 4⟩, 33342, 500000000⟩
        finishedAt := ⟨⟨2026, 5, 4⟩, 33357, 0⟩ }
    let report : Report := ⟨"Drill \u0001 €", ⟨⟨2026, 5, 4⟩, 33360, 1⟩, [result], false⟩
    let output : Output := { writeJson := true }
    report.IsOrdinary ∧ Report.ofJson? report.toJson = some report ∧
      ∃ path after, output.write report .empty = .ok path after ∧
        ∃ stem text, path = output.markdownPath stem ∧
          after.read (output.jsonPath stem) = .ok text ∧ Report.ofJson? text = some report := by
  intro result report output
  have row : result.IsOrdinary :=
    { rate := by decide +kernel
      successes := by decide +kernel
      errors := by decide +kernel
      fallbacks := by decide +kernel
      averageLatency := by decide +kernel
      submitted := by decide +kernel
      latency := by constructor <;> decide +kernel
      statusCounts := by constructor <;> decide +kernel
      achievedRate := by decide +kernel
      startedAt := by constructor <;> decide +kernel
      finishedAt := by constructor <;> decide +kernel }
  have ordinary : report.IsOrdinary :=
    { generatedAt := by constructor <;> decide +kernel
      results := fun other among => List.mem_singleton.mp among ▸ row }
  have lossless := twin_lossless ordinary
  have written : Attempt.path? ⟨report, .empty, output.write report .empty⟩ =
      some "chaos-tests/report_20260504_091600.md" := by
    decide +kernel
  refine ⟨ordinary, lossless.1, ?_⟩
  cases done : output.write report .empty with
  | error error after =>
      rw [done] at written
      cases written
  | ok path after => exact ⟨path, after, rfl, lossless.2 output _ _ _ _ rfl done⟩

end FaultDrill.Output
