import FaultDrill.Drill.Crew

/-!
A drill runs its scenarios one after another on one route. Each scenario arms at
most one fault, measures under it, and takes it away again, whatever happened in
between. A drill that is cancelled stops between two scenarios.
-/

namespace FaultDrill

structure Drill where
  route : Route
  scenarios : List Scenario
  /-- How long the target is waited for. -/
  patience : Duration

namespace Drill

/-- Why a drill came to nothing. -/
inductive Failure where
  | notReady (seconds : UInt64)
  | noClient (error : Http.ClientError)
  deriving DecidableEq

namespace Failure

/-- Errors from the outermost to the one that caused it. -/
def chain : Failure → List String
  | .notReady seconds => [s!"System under test did not become ready within {seconds}s"]
  | .noClient error =>
      let reason := error.message
      s!"Failed to build HTTP client: {reason}" :: error.chain

def message (failure : Failure) : String := failure.chain.headD ""

end Failure

/-- What came of a drill: the results of the scenarios that ran, in order. -/
structure Conclusion where
  results : List ScenarioResult
  interrupted : Bool

/-! One scenario -/

/-- What has been done to the route for a scenario. -/
inductive Armed where
  /-- The scenario has no fault, or the route could not be switched off. -/
  | nothing
  /-- A toxic, or none if it could not be injected. -/
  | toxic (name : Option String)
  | routeDown
  deriving DecidableEq

variable {World : Type} (crew : Crew World)

/-- Arms the fault of a scenario. If that fails, the scenario goes on without. -/
def arm (route : String) : Option Fault → Course World Armed
  | none => return .nothing
  | some .disable => do
      match ← Course.perform crew (.enable route false) with
      | .ok _ => return .routeDown
      | .error _ => return .nothing
  | some fault => do
      match ← Course.perform crew (.inject route fault) with
      | .ok name => return .toxic name
      | .error _ => return .toxic none

/-- Undoes what was done to the route. -/
def release (route : String) : Armed → Course World Unit
  | .nothing => return ()
  | .toxic name => do
      let _ ← Course.perform crew (.remove route name)
  | .routeDown => do
      let _ ← Course.perform crew (.enable route true)

/-- Runs one scenario. A load window that breaks down has seen nothing. -/
def execute (route : String) (scenario : Scenario) : Course World ScenarioResult := do
  let armed ← arm crew route scenario.fault
  let startedAt ← Course.quietly crew.now
  let stats ← Course.measure crew scenario.duration scenario.rate
  let finishedAt ← Course.quietly crew.now
  release crew route armed
  return .ofStats scenario (stats.getD (.ofOutcomes 0 [])) startedAt finishedAt

/-! All scenarios -/

/-- Runs scenarios until the drill is cancelled. -/
def executeAll (route : String) : List Scenario → Course World (List ScenarioResult)
  | [] => return []
  | scenario :: rest => do
      if ← Course.isCancelled crew then return []
      else
        let result ← execute crew route scenario
        let results ← executeAll route rest
        return result :: results

/-- Puts the control plane into a known state. The drill goes on if that fails. -/
def prepare (route : Route) : Course World Unit := do
  let _ ← Course.perform crew .reset
  let _ ← Course.perform crew (.configure route)

/-- Waits for the target, prepares the route and runs the scenarios. -/
def course (drill : Drill) : Course World (Except Failure Conclusion) := do
  match ← Course.quietly crew.wait with
  | .cancelled => return .ok { results := [], interrupted := true }
  | .timedOut => return .error (.notReady drill.patience.seconds)
  | .ready =>
      prepare crew drill.route
      let results ← executeAll crew drill.route.name drill.scenarios
      return .ok { results := results, interrupted := ← Course.isCancelled crew }

/-- Runs a drill in a world: what came of it, and where that has led. -/
def run (drill : Drill) (world : World) : Except Failure Conclusion × Progress World :=
  (drill.course crew).run { world := world }

end Drill

end FaultDrill
