import FaultDrill.Proofs.CommandLine.Exit
import FaultDrill.Proofs.Drill.Interruption

/-!
How a run tells that it was interrupted. The report and the status say of a drill what its
conclusion says, unless there is no report at all.
-/

namespace FaultDrill

namespace Surroundings

variable (surroundings : Surroundings) (equipment : Equipment)

/-- Time goes on, and an interrupt that has come stays. -/
theorem isInterrupted_spend {α : Type} (time : α → Nat) (act : StateM Http.Traffic α)
    {site : Site} (interrupted : surroundings.isInterrupted site = true) :
    surroundings.isInterrupted ((spend time act).run site).2 = true := by
  have elapsed : site.elapsed ≤ ((spend time act).run site).2.elapsed := Nat.le_add_right _ _
  simp only [isInterrupted, timeLeft, beq_iff_eq, Option.map_eq_some_iff] at interrupted ⊢
  rcases interrupted with ⟨interrupt, due, passed⟩
  exact ⟨interrupt, due, by omega⟩

theorem cancelsForGood : (surroundings.crew equipment).CancelsForGood where
  perform _ _ := isInterrupted_spend surroundings _ _
  measure _ _ _ := isInterrupted_spend surroundings _ _
  now _ interrupted := interrupted

end Surroundings

namespace CommandLine

variable {host : Host} {settings : Settings}

theorem status_eq_interrupted (interrupted : Bool) :
    (if interrupted then interruptedStatus else 0) = interruptedStatus ↔ interrupted = true := by
  cases interrupted <;> decide

/-- What a drill that is over leaves, and its status, which is that of a failure if there
is no report. -/
theorem conclude_leaves (host : Host) (settings : Settings) (report : Report) (disk : Disk) :
    let finish := ((conclude host settings report).run disk).1
    ((conclude host settings report).run disk).2 =
        left (settings.output.writeAmid host.mishaps report disk) ∧
      (finish.status = 1 ∨ (finish.status = interruptedStatus ↔ report.interrupted = true)) := by
  cases wrote : settings.output.writeAmid host.mishaps report disk with
  | error error there =>
      simp only [conclude, StateT.run_bind, StateT.run_get, pure_bind, wrote]
      exact ⟨rfl, .inl rfl⟩
  | ok path there =>
      simp only [conclude, StateT.run_bind, StateT.run_get, pure_bind, wrote]
      exact ⟨rfl, .inr (status_eq_interrupted report.interrupted)⟩

theorem runDrill_leaves {equipment : Equipment} {conclusion : Drill.Conclusion}
    {progress : Progress Site} (built : Equipment.ofSettings settings = .ok equipment)
    (ran : (Drill.ofSettings settings).run (host.surroundings.crew equipment) {} =
      (.ok conclusion, progress)) (note : List Log.Event → Doing Unit) (disk : Disk) :
    let report := reportOn settings host.surroundings progress.world conclusion
    let finish := ((runDrill host settings note).run disk).1
    ∃ noted, ((runDrill host settings note).run disk).2 =
        left (settings.output.writeAmid host.mishaps report noted) ∧
      (finish.status = 1 ∨ (finish.status = interruptedStatus ↔ report.interrupted = true)) := by
  simp only [runDrill, StateT.run_bind, built, ran]
  exact ⟨_, conclude_leaves host settings _ _⟩

/-- Once the target is ready, a drill is said to be interrupted exactly if it was cut short
or cancelled late, which exclude each other. The report says so too, and so does the status
if the report could be written. -/
theorem interruption_told {World : Type} {crew : Crew World} {drill : Drill} {world : World}
    (forGood : crew.CancelsForGood) (ready : (crew.wait.run world).1 = .ready) :
    (∃ conclusion, (drill.run crew world).1 = .ok conclusion ∧
      conclusion.results.length = (drill.episodes crew world).length ∧
      (conclusion.interrupted = true ↔
        drill.IsCutShort crew world ∨ drill.IsCancelledLate crew world) ∧
      ¬ (drill.IsCutShort crew world ∧ drill.IsCancelledLate crew world)) ∧
    ∀ (host : Host) (settings : Settings) (equipment : Equipment)
      (note : List Log.Event → Doing Unit) (disk : Disk),
      Equipment.ofSettings settings = .ok equipment →
      ((host.surroundings.wait equipment).run {}).1 = .ready →
      let drill := Drill.ofSettings settings
      let crew := host.surroundings.crew equipment
      let finish := ((runDrill host settings note).run disk).1
      let after := ((runDrill host settings note).run disk).2
      ∃ report noted,
        (report.interrupted = true ↔ drill.IsCutShort crew {} ∨ drill.IsCancelledLate crew {}) ∧
        after = left (settings.output.writeAmid host.mishaps report noted) ∧
        (finish.status = 1 ∨
          (finish.status = interruptedStatus ↔ report.interrupted = true)) := by
  constructor
  · refine ⟨_, congrArg Prod.fst (Drill.run_of_ready crew drill ready), List.length_map _,
      Drill.isCancelled_finish_iff forGood ready, ?_⟩
    exact fun both => both.2.not_isCutShort both.1
  · intro host settings equipment note disk built ready drill crew finish after
    rcases runDrill_leaves built (Drill.run_of_ready crew drill ready) note disk with
      ⟨noted, written, status⟩
    have forGood := host.surroundings.cancelsForGood equipment
    exact ⟨_, noted, Drill.isCancelled_finish_iff forGood ready, written, status⟩

/-- A host whose network says at once that all is well, and where a drill is interrupted. -/
def Host.healthy (interrupt : Nat) : Host where
  environment := fun _ => none
  surroundings :=
    { network := fun _ _ => .response 1 ⟨200, none, "\x7b\"status\":\"UP\"\x7d".toUTF8.toList, 0⟩
      startedAt := .epoch
      interrupt := some interrupt }

/-- A drill that is cancelled in the first of two load windows, and one that is interrupted
while its route is prepared. -/
theorem interruption_told_early :
    let script : Script := { time := .epoch, scenes := [{ cancels := true }] }
    let drill : Drill :=
      { route := {}, scenarios := [⟨"First", 1, 2, none⟩, ⟨"Second", 1, 2, none⟩],
        patience := .ofSeconds 1 }
    (∃ conclusion, (drill.run script.crew {}).1 = .ok conclusion ∧
      conclusion.interrupted = true ∧ conclusion.results.length = 1) ∧
    ∃ report noted,
      report.interrupted = true ∧
      ((runDrill (.healthy 2) {} fun _ => pure ()).run .empty).2 =
        left (({} : Settings).output.writeAmid (Host.healthy 2).mishaps report noted) ∧
      ((runDrill (.healthy 2) {} fun _ => pure ()).run .empty).1.status = interruptedStatus := by
  intro script drill
  have ready : (script.crew.wait.run {}).1 = .ready := rfl
  rcases interruption_told script.cancelsForGood ready with ⟨told, toldByStatus⟩
  constructor
  · rcases told with ⟨conclusion, concluded, results, interrupted, _⟩
    have short : drill.IsCutShort script.crew {} := .skipped (by decide)
    exact ⟨conclusion, concluded, interrupted.mpr (.inl short), results⟩
  · have waits : (Equipment.ofSettings {}).toOption.map (fun equipment =>
        let surroundings := (Host.healthy 2).surroundings
        (((surroundings.wait equipment).run {}).1,
          ((Drill.ofSettings {}).episodes (surroundings.crew equipment) {}).length)) =
        some (.ready, 0) := by decide +kernel
    rcases Option.map_eq_some_iff.mp waits with ⟨equipment, built, waits⟩
    rcases Prod.mk.inj waits with ⟨ready, none⟩
    rcases toldByStatus (.healthy 2) {} equipment (fun _ => pure ()) .empty
      (toOption_eq_some.mp built) ready with ⟨report, noted, interrupted, written, _⟩
    have short : (Drill.ofSettings {}).IsCutShort
        ((Host.healthy 2).surroundings.crew equipment) {} := by
      apply Drill.IsCutShort.skipped
      rw [none]
      decide
    exact ⟨report, noted, interrupted.mpr (.inl short), written, by decide +kernel⟩

end CommandLine

end FaultDrill
