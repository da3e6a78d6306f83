import FaultDrill.Proofs.Report.Writing

/-!
Files that a report costs. The search for a free name asks for Markdown files alone, so
the JSON twin of a report can be written over a file that was there without one.
-/

namespace FaultDrill

open Disk

namespace Output

variable {output : Output} {mishaps : Mishaps} {report : Report} {path : String}
  {disk prepared other after : Disk} {number another : Nat} {place : Place}

/-! ## The twin -/

theorem Numbers.not_isTaken (numbers : output.Numbers disk report number prepared) :
    ¬ output.isTaken prepared (output.stem report) number := by
  intro taken
  rw [isTaken, numbers.free] at taken
  cases taken

theorem Numbers.eq (numbers : output.Numbers disk report number prepared)
    (same : output.Numbers disk report another other) : number = another ∧ prepared = other := by
  have ready := numbers.ready.symm.trans same.ready
  cases ready
  refine ⟨Nat.le_antisymm ?_ ?_, rfl⟩
  · exact Nat.le_of_not_lt fun smaller => same.not_isTaken (numbers.taken _ smaller)
  · exact Nat.le_of_not_lt fun smaller => numbers.not_isTaken (same.taken _ smaller)

/-- The place of the JSON twin of a report by its first free name. -/
structure IsTwin (output : Output) (disk : Disk) (report : Report) (place : Place) : Prop where
  wanted : output.writeJson = true
  located : ∃ number prepared, output.Numbers disk report number prepared ∧
    prepared.locate (output.jsonPath (candidate (output.stem report) number)) = .ok place

/-! ## What a report leaves -/

/-- Whatever goes wrong, no other file than the twin is written over. -/
theorem writeAmid_keepsFiles (output : Output) (mishaps : Mishaps) (report : Report)
    (disk : Disk) :
    KeepsFiles (output.IsTwin disk report) disk (left (output.writeAmid mishaps report disk)) := by
  apply left_writeAmid (KeepsFiles (output.IsTwin disk report) disk) mishaps
  · exact fun _ makes => .ofMakesFolders makes
  · exact fun _ _ _ _ numbers written kept => kept.trans (.write_free numbers.free written)
  · intro number prepared _ _ _ numbers written wanted also kept
    apply kept.trans (.write also _)
    exact fun _ located => ⟨wanted, number, prepared, numbers, locate_of_write written located⟩

theorem entry_twin (done : output.writeAmid mishaps report disk = .ok path after)
    (twin : output.IsTwin disk report place) :
    after.entry? place = some (.file report.toJson) := by
  rcases writeAmid_eq_done done with ⟨number, prepared, marked, numbers, _, writes⟩
  rcases twin with ⟨wanted, another, other, same, located⟩
  rcases numbers.eq same with ⟨rfl, rfl⟩
  rcases entry_of_write (writes.json wanted) with ⟨there, led, present, _⟩
  cases located.symm.trans (locate_of_write writes.markdown led)
  exact present

/-! ## Files that are lost -/

/-- A report takes the first free name and is written over no file but the one that has
the JSON twin of this name, and over this one whenever both are written. -/
theorem overwrites_twin_alone (output : Output) (mishaps : Mishaps) (report : Report)
    (disk : Disk) :
    (∀ place, Overwrites disk (left (output.writeAmid mishaps report disk)) place →
      output.IsTwin disk report place) ∧
    ∀ path after, output.writeAmid mishaps report disk = .ok path after →
      (∃ number prepared, output.Numbers disk report number prepared ∧
        path = output.markdownPath (candidate (output.stem report) number)) ∧
      ∀ place, Overwrites disk after place ↔ output.IsTwin disk report place ∧
        ∃ content, disk.entry? place = some (.file content) ∧ content ≠ report.toJson := by
  have spared : ∀ place, Overwrites disk (left (output.writeAmid mishaps report disk)) place →
      output.IsTwin disk report place :=
    fun _ => (writeAmid_keepsFiles output mishaps report disk).spared_of_overwrites
  refine ⟨spared, fun path after done => ⟨?_, fun place => ⟨fun lost => ?_, ?_⟩⟩⟩
  · rcases writeAmid_eq_done done with ⟨number, prepared, _, numbers, named, _⟩
    exact ⟨number, prepared, numbers, named⟩
  · have twin := spared place (by rwa [done])
    rcases lost with ⟨content, present, lost⟩
    refine ⟨twin, content, present, ?_⟩
    rintro rfl
    exact lost (entry_twin done twin)
  · rintro ⟨twin, content, present, differs⟩
    refine ⟨content, present, fun kept => differs ?_⟩
    cases kept.symm.trans (entry_twin done twin)
    rfl

/-- Only the JSON twin is left of an earlier report, and the next one of the same second
is written over it. -/
theorem json_overwritten :
    let output : Output := { directory := "out", writeJson := true }
    let report : Report := ⟨"Drill", ⟨⟨2026, 5, 4⟩, 33342, 0⟩, [], false⟩
    let twin : Place := ["out", "report_20260504_091542.json"]
    let disk : Disk := { entries := [(twin, .file "old"), (["out"], .folder)] }
    (Disk.ofFiles [("out/report_20260504_091542.json", "old")]).toOption.map Disk.entries =
      some disk.entries ∧
    Overwrites disk (left (output.write report disk)) twin :=
  ⟨by decide +kernel, "old", by decide +kernel, by decide +kernel⟩

end Output

end FaultDrill
