import FaultDrill.CommandLine.Arguments
import FaultDrill.CommandLine.DrillCommand
import FaultDrill.CommandLine.Listing
import FaultDrill.CommandLine.SettingsFile
import FaultDrill.Log.Book

/-!
The program as a whole: from arguments, environment and disk to what is printed,
what is on the disk afterwards, and the status it exits with.
-/

namespace FaultDrill.CommandLine

/-! The log -/

/-- The variable that filters the log if nothing else does. -/
def filterVariable : String := "RUST_LOG"

/-- What has become of the log: it is kept, or it is not and something is said
about that, or the program breaks down. -/
inductive LogState where
  | kept (book : Log.Book)
  | givenUp (notice : String)
  | broken

/-- Opens the log. -/
def startLog (host : Host) (level : Option String) (logging : Logging) : Doing LogState := do
  match Log.Book.start logging level (host.environment filterVariable) (← get) with
  | .ok book disk =>
      set disk
      return .kept book
  | .error error disk =>
      set disk
      if error = .noFile then return .broken
      let reason := error.message
      return .givenUp
        s!"Failed to initialize configured logging: {reason}, falling back to simple tracing"

/-- Logs events one after another. All bear the time of the start. -/
def note (host : Host) (log : LogState) (events : List Log.Event) : Doing Unit :=
  match log with
  | .kept book => modify fun disk => events.foldl (book.write host.surroundings.startedAt) disk
  | _ => return ()

/-! Commands -/

/-- Runs a drill or lists its scenarios. -/
def withSettings (host : Host) (invocation : Invocation) (settings : Settings) : Doing Finish := do
  let log ← startLog host invocation.logLevel settings.logging
  let notices := match log with
    | .givenUp notice => [notice]
    | _ => []
  if log matches .broken then return .crash
  note host log [loggingStarted]
  if invocation.task = .scenarios then
    return { Finish.success (listing settings.scenarios) with notices }
  else return { ← runDrill host settings (note host log) with notices }

/-- Does what an invocation asks for. -/
def perform (host : Host) (invocation : Invocation) : Doing Finish := do
  match invocation.task with
  | .validate path => validate host path
  | .generate path force => generate path force
  | .run | .scenarios =>
      match loadSettings host.environment (← get) invocation.config with
      | .error reason => return .failure reason
      | .ok settings => withSettings host invocation (invocation.adjust settings)

/-- The whole program. -/
def program (host : Host) (arguments : List String) : Doing Finish :=
  match Invocation.read arguments with
  | .ok invocation => perform host invocation
  | .error (.help topic) => return .success topic.helpText
  | .error .version => return .success (version ++ "\n")
  | .error .misuse => return .misuse

end FaultDrill.CommandLine
