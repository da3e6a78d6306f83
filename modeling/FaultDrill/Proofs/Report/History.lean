import FaultDrill.Proofs.Report.Writing

/-!
Reports that are written one after another. Whatever goes wrong in between, a report
that has been written stays where it is, and no later one takes its name.
-/

namespace FaultDrill

open Disk

/-- A report that was to be written, and what came of it. -/
structure Attempt where
  report : Report
  before : Disk
  outcome : EStateM.Result WriteError Disk String

namespace Attempt

def after (attempt : Attempt) : Disk := left attempt.outcome

/-- The path that a successful attempt returns. -/
def path? (attempt : Attempt) : Option String :=
  match attempt.outcome with
  | .ok path _ => some path
  | .error _ _ => none

/-- A report has been written at a path: directly in the directory, where nothing was,
and by the first name that was free. -/
structure IsAt (attempt : Attempt) (output : Output) (path : String) (number : Nat) : Prop where
  named : path = output.markdownPath (Output.candidate (output.stem attempt.report) number)
  inside : ∃ folder name, attempt.after.follow output.directory = .ok folder ∧
    attempt.after.locate path = .ok (folder ++ [name])
  new : attempt.before.has path = false
  first : ∃ prepared, output.Numbers attempt.before attempt.report number prepared ∧
    (attempt.before.isFolder output.directory = true → prepared = attempt.before)

end Attempt

namespace Output

variable {output : Output} {stem path : String} {report : Report} {disk : Disk}

/-- Each report amid its own mishaps, on the disk that the one before has left. -/
def attempts (output : Output) : List (Mishaps × Report) → Disk → List Attempt
  | [], _ => []
  | (mishaps, report) :: rest, disk =>
      let outcome := output.writeAmid mishaps report disk
      ⟨report, disk, outcome⟩ :: output.attempts rest (left outcome)

/-- The disk that all attempts leave. -/
def leftByAll (output : Output) (requests : List (Mishaps × Report)) (disk : Disk) : Disk :=
  requests.foldl (fun disk request => left (output.writeAmid request.1 request.2 disk)) disk

/-! ## One attempt -/

theorem isAt_of_done (isPrefix : IsOneName output.filePrefix) {mishaps : Mishaps} {after : Disk}
    (done : output.writeAmid mishaps report disk = .ok path after) :
    ∃ number, Attempt.IsAt ⟨report, disk, .ok path after⟩ output path number ∧
      output.Holds after (candidate (output.stem report) number) report := by
  obtain ⟨number, prepared, marked, numbers, named, writes⟩ := writeAmid_eq_done done
  have isStem := (IsOneName.stem isPrefix report).candidate number
  have holds := writes.holds isStem
  refine ⟨number, ?_, holds⟩
  obtain ⟨place, located, _⟩ := find_eq_ok.mp (read_eq_ok.mp holds.markdown)
  obtain ⟨folder, followed, _, same⟩ := locate_join isStem.markdown located
  subst named
  exact
    { named := rfl
      inside := ⟨folder, _, followed, same ▸ located⟩
      new := numbers.new
      first := ⟨prepared, numbers, numbers.prepared_eq⟩ }

/-! ## All attempts -/

theorem Holds.leftByAll (isPrefix : IsOneName output.filePrefix) (isStem : IsOneName stem)
    (requests : List (Mishaps × Report)) (holds : output.Holds disk stem report) :
    output.Holds (output.leftByAll requests disk) stem report := by
  induction requests generalizing disk with
  | nil => exact holds
  | cons request rest induction =>
      exact induction (holds.writeAmid isPrefix isStem request.1 request.2)

theorem Holds.before (isPrefix : IsOneName output.filePrefix) (isStem : IsOneName stem)
    {requests : List (Mishaps × Report)} (holds : output.Holds disk stem report)
    {attempt : Attempt} (among : attempt ∈ output.attempts requests disk) :
    output.Holds attempt.before stem report := by
  induction requests generalizing disk with
  | nil => cases among
  | cons request rest induction =>
      rcases List.mem_cons.mp among with rfl | later
      · exact holds
      · exact induction (holds.writeAmid isPrefix isStem request.1 request.2) later

/-- Each report that has been written is kept. -/
theorem isAt_of_mem (isPrefix : IsOneName output.filePrefix)
    {requests : List (Mishaps × Report)} {attempt : Attempt}
    (among : attempt ∈ output.attempts requests disk) (written : attempt.path? = some path) :
    ∃ number, attempt.IsAt output path number ∧
      output.Holds (output.leftByAll requests disk)
        (candidate (output.stem attempt.report) number) attempt.report := by
  induction requests generalizing disk with
  | nil => cases among
  | cons request rest induction =>
      rcases List.mem_cons.mp among with rfl | later
      · cases done : output.writeAmid request.1 request.2 disk with
        | error error after =>
            simp [Attempt.path?, done] at written
        | ok path' after =>
            have same : path' = path := by simpa [Attempt.path?, done] using written
            subst same
            obtain ⟨number, isAt, holds⟩ := isAt_of_done isPrefix done
            have isStem := (IsOneName.stem isPrefix request.2).candidate number
            refine ⟨number, isAt, ?_⟩
            have kept := holds.leftByAll isPrefix isStem rest
            rwa [leftByAll, List.foldl_cons, done]
      · exact induction later

theorem paths_nodup (isPrefix : IsOneName output.filePrefix) (requests : List (Mishaps × Report))
    (disk : Disk) : ((output.attempts requests disk).filterMap Attempt.path?).Nodup := by
  induction requests generalizing disk with
  | nil => exact List.nodup_nil
  | cons request rest induction =>
      have others := induction (left (output.writeAmid request.1 request.2 disk))
      cases done : output.writeAmid request.1 request.2 disk with
      | error error after =>
          rw [attempts, done, List.filterMap_cons_none rfl]
          rwa [done] at others
      | ok path after =>
          have first : Attempt.path? ⟨request.2, disk, .ok path after⟩ = some path := rfl
          rw [attempts, done, List.filterMap_cons_some first]
          rw [done] at others
          have apart : path ∉ (output.attempts rest after).filterMap Attempt.path? := by
            -- The first report is still there when a later one looks for a free name.
            intro again
            obtain ⟨attempt, later, written⟩ := List.mem_filterMap.mp again
            obtain ⟨number, isAt, holds⟩ := isAt_of_done isPrefix done
            have isStem := (IsOneName.stem isPrefix request.2).candidate number
            have there := (holds.before isPrefix isStem later).markdown
            obtain ⟨_, isLater, _⟩ := isAt_of_mem isPrefix later written
            have present : attempt.before.has path = true :=
              has_iff.mpr ⟨_, read_eq_ok.mp (isAt.named ▸ there)⟩
            rw [isLater.new] at present
            cases present
          exact List.nodup_cons.mpr ⟨apart, others⟩

/-- Reports are never lost among themselves: what has been written lies in the directory
under the first name that was free and stays there with its own content, and the search
for a name ends. -/
theorem reports_kept (accepted : ({ filePrefix := output.filePrefix } : Output).check = .ok ())
    (requests : List (Mishaps × Report)) (disk : Disk) :
    (∀ attempt ∈ output.attempts requests disk, ∀ path, attempt.path? = some path →
      ∃ number, attempt.IsAt output path number ∧
        output.Holds (output.leftByAll requests disk)
          (candidate (output.stem attempt.report) number) attempt.report) ∧
    ((output.attempts requests disk).filterMap Attempt.path?).Nodup ∧
    ∀ attempt ∈ output.attempts requests disk, ∀ (prepared : Disk) (mishaps : Mishaps) (more : Nat),
      output.freeStem mishaps (output.stem attempt.report) (prepared.entries.length + 1 + more) 0
          prepared =
        output.freeStem mishaps (output.stem attempt.report) (prepared.entries.length + 1) 0
          prepared := by
  have isPrefix : IsOneName output.filePrefix := (isSound_of_check accepted).oneName
  refine ⟨fun attempt among path written => isAt_of_mem isPrefix among written,
    paths_nodup isPrefix requests disk, fun attempt _ prepared mishaps more => ?_⟩
  exact freeStem_more mishaps _ prepared more

/-- Two reports of one second. -/
theorem reports_kept_twice :
    let output : Output := { writeJson := true }
    let report : Report := ⟨"Drill", ⟨⟨2026, 5, 4⟩, 33342, 0⟩, [], false⟩
    let requests : List (Mishaps × Report) := [(fun _ => none, report), (fun _ => none, report)]
    ({ filePrefix := output.filePrefix } : Output).check = .ok () ∧
    (output.attempts requests .empty).map Attempt.path? =
      [some "chaos-tests/report_20260504_091542.md",
        some "chaos-tests/report_20260504_091542_1.md"] ∧
    ((output.attempts requests .empty).filterMap Attempt.path?).Nodup := by
  have accepted : ({} : Output).check = .ok () := eq_ok_of_isOk (by decide +kernel)
  exact ⟨accepted, by decide +kernel, (reports_kept accepted _ _).2.1⟩

end Output

end FaultDrill
