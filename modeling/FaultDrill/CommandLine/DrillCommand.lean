import FaultDrill.CommandLine.Events
import FaultDrill.CommandLine.Host

/-!
Running a drill and writing the report on it.
-/

namespace FaultDrill.CommandLine

/-- The report on a drill that is over. -/
def reportOn (settings : Settings) (surroundings : Surroundings) (site : Site)
    (conclusion : Drill.Conclusion) : Report where
  title := settings.output.title
  generatedAt := surroundings.startedAt.after site.elapsed
  results := conclusion.results
  interrupted := conclusion.interrupted

/-- Writes the report on a drill, and prints where it is. -/
def conclude (host : Host) (settings : Settings) (report : Report) : Doing Finish := do
  match settings.output.writeAmid host.mishaps report (← get) with
  | .error error disk =>
      set disk
      return .failure (.noReport error)
  | .ok path disk =>
      set disk
      let status := if report.interrupted then interruptedStatus else 0
      return { status, output := path ++ "\n" }

/-- Runs the drill that settings ask for, and tells what happens until it is under
way. -/
def runDrill (host : Host) (settings : Settings) (note : List Log.Event → Doing Unit) :
    Doing Finish := do
  note [drillStarted settings, clientsPrepared settings.http]
  match Equipment.ofSettings settings with
  | .error error => return .failure (.noClient error)
  | .ok equipment =>
      note [loadClientBuilt settings, waitStarted settings.target]
      let (result, progress) :=
        (Drill.ofSettings settings).run (host.surroundings.crew equipment) {}
      let site := progress.world
      match result with
      | .error error =>
          note [waitTimedOut settings.target]
          return { Finish.failure (.aborted error) with traffic := site.traffic }
      | .ok conclusion =>
          let finish ← conclude host settings (reportOn settings host.surroundings site conclusion)
          return { finish with traffic := site.traffic }

end FaultDrill.CommandLine
