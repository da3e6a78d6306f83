import FaultDrill.Proofs.CommandLine.Logging
import FaultDrill.Proofs.CommandLine.Options
import FaultDrill.Proofs.Drill.Trace
import FaultDrill.Proofs.Drill.Waiting
import FaultDrill.Proofs.Report.Writing

/-!
What the status of a run tells. The report is there before the status says that all has
gone well, or that the drill was interrupted; and nothing but the wait has happened if the
target was never ready.
-/

namespace FaultDrill.CommandLine

open Disk

variable {host : Host} {settings : Settings} {report : Report} {disk opened after : Disk}
  {finish : Finish} {log : LogState} {invocation : Invocation} {spot : Option Place}

/-! ## The report -/

/-- A report has been written where a command says it is, and where nothing was before. -/
def Finish.Reports (finish : Finish) (before after : Disk) (report : Report) : Prop :=
  ∃ path, finish.output = path ++ "\n" ∧ before.has path = false ∧
    after.read path = .ok report.toMarkdown

theorem Finish.Reports.earlier {before : Disk} (keeps : KeepsBut spot before disk)
    (reports : finish.Reports disk after report) : finish.Reports before after report := by
  obtain ⟨path, printed, new, written⟩ := reports
  refine ⟨path, printed, ?_, written⟩
  rw [← Bool.not_eq_true] at new ⊢
  exact fun present => new (keeps.has present)

theorem conclude_reports (isPrefix : Output.IsOneName settings.output.filePrefix)
    (concluded : (conclude host settings report).run disk = (finish, after)) :
    finish.status = 1 ∨ finish.status = (if report.interrupted then interruptedStatus else 0) ∧
      finish.Reports disk after report := by
  cases wrote : settings.output.writeAmid host.mishaps report disk with
  | error error there =>
      simp only [conclude, StateT.run_bind, StateT.run_get, pure_bind, wrote] at concluded
      cases concluded
      exact .inl rfl
  | ok path there =>
      simp only [conclude, StateT.run_bind, StateT.run_get, pure_bind, wrote] at concluded
      cases concluded
      obtain ⟨number, prepared, _, numbers, named, writes⟩ := Output.writeAmid_eq_done wrote
      have holds := writes.holds ((Output.IsOneName.stem isPrefix report).candidate number)
      subst named
      exact .inr ⟨rfl, _, rfl, numbers.new, holds.markdown⟩

/-- The status of a drill with a report tells whether it was interrupted. -/
theorem interrupted_of_status
    (status : finish.status = if report.interrupted then interruptedStatus else 0) :
    (finish.status = 0 → report.interrupted = false) ∧
      (finish.status = interruptedStatus → report.interrupted = true) := by
  cases interrupted : report.interrupted <;> rw [interrupted] at status
  · exact ⟨fun _ => rfl, fun stopped => absurd (status.symm.trans stopped) (by decide)⟩
  · exact ⟨fun success => absurd (status.symm.trans success) (by decide), fun _ => rfl⟩

/-! ## The drill -/

/-- How the command that runs a drill ends: there are no clients for it, or it fails, or
it comes to a conclusion and there is a report to write. -/
inductive DrillEnds (host : Host) (settings : Settings) (disk : Disk) : Finish → Disk → Prop
  | noClient {error} :
      Equipment.ofSettings settings = .error error →
      DrillEnds host settings disk (.failure (.noClient error)) disk
  | failed {equipment error progress} :
      Equipment.ofSettings settings = .ok equipment →
      (Drill.ofSettings settings).run (host.surroundings.crew equipment) {} =
        (.error error, progress) →
      DrillEnds host settings disk
        { Finish.failure (.aborted error) with traffic := progress.world.traffic } disk
  | concluded {equipment conclusion progress finish after} :
      Equipment.ofSettings settings = .ok equipment →
      (Drill.ofSettings settings).run (host.surroundings.crew equipment) {} =
        (.ok conclusion, progress) →
      (conclude host settings
        (reportOn settings host.surroundings progress.world conclusion)).run disk =
          (finish, after) →
      DrillEnds host settings disk { finish with traffic := progress.world.traffic } after

namespace DrillEnds

theorem reports (isPrefix : Output.IsOneName settings.output.filePrefix)
    (ends : DrillEnds host settings disk finish after) :
    finish.status = 1 ∨ ∃ report : Report,
      finish.status = (if report.interrupted then interruptedStatus else 0) ∧
      finish.Reports disk after report ∧
      report.results.map ScenarioResult.scenario <+: settings.scenarios ∧
      (report.interrupted = false →
        report.results.map ScenarioResult.scenario = settings.scenarios) := by
  cases ends with
  | noClient _ => exact .inl rfl
  | failed _ _ => exact .inl rfl
  | @concluded equipment conclusion progress told _ _ ran concluded =>
      rcases conclude_reports isPrefix concluded with failed | ⟨status, reports⟩
      · exact .inl failed
      · have result := congrArg Prod.fst ran
        obtain ⟨some, all⟩ := Drill.scenarios_of_run _ _ _ result
        exact .inr ⟨_, status, reports, some, all⟩

theorem timedOut {equipment : Equipment} (built : Equipment.ofSettings settings = .ok equipment)
    (waited : ((host.surroundings.wait equipment).run {}).1 = .timedOut)
    (ends : DrillEnds host settings disk finish after) :
    finish.status = 1 ∧ after = disk ∧
      finish.traffic = ((host.surroundings.wait equipment).run {}).2.traffic := by
  have outcome := Drill.run_of_timedOut (host.surroundings.crew equipment)
    (Drill.ofSettings settings) waited
  cases ends with
  | noClient refused =>
      rw [built] at refused
      cases refused
  | failed same ran =>
      rw [built] at same
      cases same
      rw [outcome] at ran
      cases ran
      exact ⟨rfl, rfl, rfl⟩
  | concluded same ran _ =>
      rw [built] at same
      cases same
      rw [outcome] at ran
      cases ran

end DrillEnds

theorem runDrill_ends (isKept : Log.Book.IsKeptAt disk log.path? spot)
    (ran : (runDrill host settings (note host log)).run disk = (finish, after)) :
    ∃ noted, KeepsBut spot disk noted ∧ DrillEnds host settings noted finish after := by
  have first :=
    note_keeps host [drillStarted settings, clientsPrepared settings.http] isKept
  have isKept := isKept.later first.keepsFolders
  cases built : Equipment.ofSettings settings with
  | error error =>
      simp only [runDrill, StateT.run_bind, built] at ran
      cases ran
      exact ⟨_, first, .noClient built⟩
  | ok equipment =>
      have second :=
        note_keeps host [loadClientBuilt settings, waitStarted settings.target] isKept
      have isKept := isKept.later second.keepsFolders
      cases done : (Drill.ofSettings settings).run (host.surroundings.crew equipment) {} with
      | mk result progress =>
          cases result with
          | error error =>
              have third := note_keeps host [waitTimedOut settings.target] isKept
              simp only [runDrill, StateT.run_bind, built, done] at ran
              cases ran
              exact ⟨_, (first.trans second).trans third, .failed built done⟩
          | ok conclusion =>
              simp only [runDrill, StateT.run_bind, built, done] at ran
              cases ran
              exact ⟨_, first.trans second, .concluded built done rfl⟩

/-! ## The command -/

theorem runDrill_ends_of_started
    (started : (startLog host invocation.logLevel settings.logging).run disk = (log, opened))
    (ran : (runDrill host settings (note host log)).run
      ((note host log [loggingStarted]).run opened).2 = (finish, after)) :
    ∃ spot noted, KeepsBut spot disk noted ∧ Log.Book.IsKeptAt noted log.path? spot ∧
      DrillEnds host settings noted finish after := by
  obtain ⟨spot, first, isKept⟩ := startLog_keeps started
  have second := note_keeps host [loggingStarted] isKept
  have isKept := isKept.later second.keepsFolders
  obtain ⟨noted, third, ends⟩ := runDrill_ends isKept ran
  exact ⟨spot, noted, (first.trans second).trans third, isKept.later third.keepsFolders, ends⟩

/-- A log that cannot be kept is given up, but one whose file cannot be opened is the end. -/
theorem withSettings_ends (isRun : invocation.task = .run)
    (started : (startLog host invocation.logLevel settings.logging).run disk = (log, opened))
    (ran : (withSettings host invocation settings).run disk = (finish, after)) :
    log = .broken ∧ finish = .crash ∨
      ∃ spot noted told notices, log ≠ .broken ∧ KeepsBut spot disk noted ∧
        Log.Book.IsKeptAt noted log.path? spot ∧ DrillEnds host settings noted told after ∧
          finish = { told with notices } := by
  cases log with
  | broken =>
      simp only [withSettings, StateT.run_bind, started] at ran
      cases ran
      exact .inl ⟨rfl, rfl⟩
  | givenUp notice =>
      obtain ⟨spot, noted, keeps, isKept, ends⟩ := runDrill_ends_of_started started rfl
      simp only [withSettings, StateT.run_bind, started, isRun] at ran
      cases ran
      exact .inr ⟨spot, noted, _, _, nofun, keeps, isKept, ends, rfl⟩
  | kept book =>
      obtain ⟨spot, noted, keeps, isKept, ends⟩ := runDrill_ends_of_started started rfl
      simp only [withSettings, StateT.run_bind, started, isRun] at ran
      cases ran
      exact .inr ⟨spot, noted, _, _, nofun, keeps, isKept, ends, rfl⟩

theorem program_run {arguments : List String} {loaded : Settings}
    (understood : Invocation.read arguments = .ok invocation) (isRun : invocation.task = .run)
    (loads : loadSettings host.environment disk invocation.config = .ok loaded) :
    (program host arguments).run disk =
      (withSettings host invocation (invocation.adjust loaded)).run disk := by
  simp only [program, understood, perform, isRun, StateT.run_bind, StateT.run_get, pure_bind, loads]

theorem healthUrl_of_ofSettings {equipment : Equipment}
    (built : Equipment.ofSettings settings = .ok equipment) :
    equipment.probe.address = settings.target.healthUrl := by
  obtain ⟨probe, made, built⟩ := bind_eq_ok.mp built
  obtain ⟨_, _, built⟩ := bind_eq_ok.mp built
  obtain ⟨_, _, built⟩ := bind_eq_ok.mp built
  obtain ⟨_, _, same⟩ := bind_eq_ok.mp made
  cases built
  cases same
  rfl

/-- Waiting is nothing but asking for the health of the target. -/
theorem asks_of_wait {equipment : Equipment} {request : Http.Request}
    (built : Equipment.ofSettings settings = .ok equipment)
    (sent : request ∈ ((host.surroundings.wait equipment).run {}).2.traffic) :
    request.Asks ∧ ∃ first, Url.parse settings.target.healthUrl = .ok first.url ∧
      Http.LedFrom host.surroundings.network first request := by
  obtain ⟨first, asked, led⟩ := Surroundings.sends_of_wait sent
  obtain ⟨parsed, _, method, body⟩ := Http.Client.parse_of_request? _ asked
  rw [healthUrl_of_ofSettings built] at parsed
  exact ⟨led.asks ⟨method, body⟩, first, parsed, led⟩

/-- What the status of a run means, whatever the network answers, whatever is on the disk or
goes wrong with it, and whenever the drill is interrupted. -/
theorem run_exits {arguments : List String} {loaded : Settings}
    (understood : Invocation.read arguments = .ok invocation) (isRun : invocation.task = .run)
    (loads : loadSettings host.environment disk invocation.config = .ok loaded) :
    let settings := invocation.adjust loaded
    let log := ((startLog host invocation.logLevel settings.logging).run disk).1
    let finish := ((program host arguments).run disk).1
    let after := ((program host arguments).run disk).2
    (finish.status = 0 → ∃ report : Report, finish.Reports disk after report ∧
      report.interrupted = false ∧
      report.results.map ScenarioResult.scenario = settings.scenarios) ∧
    (finish.status = 130 → ∃ report : Report, finish.Reports disk after report ∧
      report.interrupted = true ∧
      report.results.map ScenarioResult.scenario <+: settings.scenarios) ∧
    ∀ equipment, Equipment.ofSettings settings = .ok equipment → log ≠ .broken →
      ((host.surroundings.wait equipment).run {}).1 = .timedOut →
      finish.status = 1 ∧
      ((Drill.ofSettings settings).run (host.surroundings.crew equipment) {}).2.deeds = [] ∧
      (∀ request ∈ finish.traffic, request.Asks ∧
        ∃ first, Url.parse settings.target.healthUrl = .ok first.url ∧
          Http.LedFrom host.surroundings.network first request) ∧
      ∃ spot, Log.Book.IsKeptAt after log.path? spot ∧ KeepsBut spot disk after := by
  intro settings log finish after
  have isPrefix : Output.IsOneName settings.output.filePrefix :=
    (invocation.adjust_isSound understood (isSound_of_loadSettings loads)).output.oneName
  have ran : (withSettings host invocation settings).run disk = (finish, after) :=
    (program_run understood isRun loads).symm
  rcases withSettings_ends isRun rfl ran with
    ⟨broken, crashed⟩ | ⟨spot, noted, told, notices, _, keeps, isKept, ends, same⟩
  · rw [crashed]
    exact ⟨nofun, nofun, fun _ _ unbroken => absurd broken unbroken⟩
  · rw [same]
    refine ⟨?_, ?_, ?_⟩
    · intro success
      rcases ends.reports isPrefix with failed | ⟨report, status, reports, _, all⟩
      · exact absurd (failed.symm.trans success) (by decide)
      · have interrupted := (interrupted_of_status status).1 success
        exact ⟨report, reports.earlier keeps, interrupted, all interrupted⟩
    · intro stopped
      rcases ends.reports isPrefix with failed | ⟨report, status, reports, some, _⟩
      · exact absurd (failed.symm.trans stopped) (by decide)
      · have interrupted := (interrupted_of_status status).2 stopped
        exact ⟨report, reports.earlier keeps, interrupted, some⟩
    · intro equipment built _ waited
      obtain ⟨failed, unchanged, traffic⟩ := ends.timedOut built waited
      refine ⟨failed, ?_, ?_, spot, unchanged ▸ isKept, unchanged ▸ keeps⟩
      · rw [Drill.run_of_timedOut (host.surroundings.crew equipment) _ waited]
        rfl
      · intro request sent
        exact asks_of_wait built (traffic ▸ sent)

/-- A host on which nobody can be reached. -/
def Host.alone (interrupt : Option Nat) : Host where
  environment := fun _ => none
  surroundings := { network := .unreachable 0, startedAt := .epoch, interrupt }

/-- A drill there that is interrupted at once, and one that is not. -/
theorem run_exits_alone :
    (∃ report : Report,
      ((program (.alone (some 0)) ["run"]).run .empty).1.Reports .empty
        ((program (.alone (some 0)) ["run"]).run .empty).2 report ∧ report.interrupted = true) ∧
    ((program (.alone none) ["run"]).run .empty).1.status = 1 := by
  let invocation : Invocation := ⟨.run, none, none, none, false⟩
  have understood : Invocation.read ["run"] = .ok invocation := by decide +kernel
  have waits : ((loadSettings (fun _ => none) .empty none).toOption.bind fun loaded =>
      let settings := invocation.adjust loaded
      (Equipment.ofSettings settings).toOption.map fun equipment =>
        (((startLog (.alone none) none settings.logging).run .empty).1.ctorIdx,
          (((Host.alone none).surroundings.wait equipment).run {}).1)) =
      some (0, .timedOut) := by decide +kernel
  obtain ⟨loaded, loads, waits⟩ := Option.bind_eq_some_iff.mp waits
  obtain ⟨equipment, built, waits⟩ := Option.map_eq_some_iff.mp waits
  obtain ⟨unbroken, waited⟩ := Prod.mk.inj waits
  have loadsOn (interrupt : Option Nat) :
      loadSettings (Host.alone interrupt).environment .empty invocation.config = .ok loaded :=
    toOption_eq_some.mp loads
  constructor
  · obtain ⟨_, stopped, _⟩ := run_exits understood rfl (loadsOn (some 0))
    obtain ⟨report, reports, interrupted, _⟩ := stopped (by decide +kernel)
    exact ⟨report, reports, interrupted⟩
  · obtain ⟨_, _, unready⟩ := run_exits understood rfl (loadsOn none)
    refine (unready equipment (toOption_eq_some.mp built) ?_ waited).1
    intro broken
    rw [broken] at unbroken
    cases unbroken

end FaultDrill.CommandLine
