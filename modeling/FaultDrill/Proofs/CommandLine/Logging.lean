import FaultDrill.CommandLine.Program
import FaultDrill.Proofs.Log.Keeping

/-!
What logging leaves on the disk while a command runs.
-/

namespace FaultDrill.CommandLine

open Disk

variable {host : Host} {level : Option String} {logging : Logging} {log : LogState}
  {disk after : Disk} {spot : Option Place}

/-- The file that a log is kept in, if it is kept in one. -/
def LogState.path? : LogState → Option String
  | .kept book => book.path
  | _ => none

/-- Opening a log makes folders and its own file, whether or not it can be kept. -/
theorem startLog_keeps (started : (startLog host level logging).run disk = (log, after)) :
    ∃ spot, KeepsBut spot disk after ∧ Log.Book.IsKeptAt after log.path? spot := by
  cases opened : Log.Book.start logging level (host.environment filterVariable) disk with
  | ok book there =>
      simp only [startLog, StateT.run_bind, StateT.run_get, pure_bind, opened] at started
      cases started
      exact Log.Book.start_keeps opened
  | error error there =>
      have makes := Log.Book.makesFolders_of_start opened
      simp only [startLog, StateT.run_bind, StateT.run_get, pure_bind, opened] at started
      split at started <;> cases started
      · exact ⟨none, KeepsBut.ofMakesFolders makes, .console⟩
      · exact ⟨none, KeepsBut.ofMakesFolders makes, .console⟩

theorem note_keeps (host : Host) (events : List Log.Event)
    (isKept : Log.Book.IsKeptAt disk log.path? spot) :
    KeepsBut spot disk ((note host log events).run disk).2 := by
  cases log with
  | kept book => exact Log.Book.foldl_write_keeps _ events isKept
  | givenUp notice => exact KeepsBut.refl disk
  | broken => exact KeepsBut.refl disk

end FaultDrill.CommandLine
