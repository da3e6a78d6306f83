import FaultDrill.Drill.Crew

/-!
Crews that do as they are told beforehand. A script says for each scenario that
is executed what its load window sees and what goes wrong, and when the drill is
cancelled.
-/

namespace FaultDrill

/-- What happens in the course of one scenario. -/
structure Scene where
  outcomes : List Outcome := []
  /-- How many requests the load window submits, if not one for each outcome. -/
  submitted : Option Nat := none
  /-- Whether the drill is cancelled during the load window. -/
  cancels : Bool := false
  /-- Whether the load window breaks down, after that. -/
  panics : Bool := false
  /-- The name of the toxic that is injected, if not one made of its kind. -/
  toxic : Option String := none
  failsToInject : Bool := false
  failsToRemove : Bool := false
  failsToDisable : Bool := false
  failsToEnable : Bool := false

structure Script where
  readiness : Readiness := .ready
  failsToReset : Bool := false
  failsToConfigure : Bool := false
  /-- The drill is cancelled just before the action of this number, from zero. -/
  cancelsBefore : Option Nat := none
  /-- The time that all clocks show. -/
  time : Instant
  scenes : List Scene := []

/-- How far a script has been played. -/
structure Stage where
  /-- The actions so far. -/
  actions : Nat := 0
  /-- The load windows so far. -/
  windows : Nat := 0
  cancelled : Bool := false

namespace Script

/-- The scene of a number; nothing special happens beyond the last. -/
def scene (script : Script) (number : Nat) : Scene := script.scenes.getD number {}

/-- Begins the next action. -/
def begin (script : Script) : StateM Stage Stage := do
  let stage ← get
  let cancelled := stage.cancelled || script.cancelsBefore == some stage.actions
  set { stage with actions := stage.actions + 1, cancelled := cancelled }
  return stage

/-- The scene whose load window is over. -/
def lastScene (script : Script) (stage : Stage) : Scene := script.scene (stage.windows - 1)

/-- The toxic that an injection makes in a scene. -/
def toxicName (scene : Scene) (fault : Fault) : String :=
  scene.toxic.getD (((fault.toxic?.map Toxic.kind).getD "") ++ "_downstream")

def refusal (command : Command) : CommandError := .rejected command.operation 500 ""

/-- Commands fail where the script says so. -/
def perform (script : Script) (command : Command) :
    StateM Stage (Except CommandError (Option String)) := do
  let stage ← script.begin
  let scene := script.scene stage.windows
  let last := script.lastScene stage
  let (fails, name) : Bool × Option String :=
    match command with
    | .reset => (script.failsToReset, none)
    | .configure _ => (script.failsToConfigure, none)
    | .inject _ fault => (scene.failsToInject, some (toxicName scene fault))
    | .remove _ _ => (last.failsToRemove, none)
    | .enable _ false => (scene.failsToDisable, none)
    | .enable _ true => (last.failsToEnable, none)
  return if fails then .error (refusal command) else .ok name

/-- An injection that succeeds tells the toxic. -/
theorem perform_inject_ne (script : Script) (route : String) (fault : Fault) (stage : Stage) :
    ((script.perform (.inject route fault)).run stage).1 ≠ .ok none := by
  change (if (script.scene stage.windows).failsToInject then Except.error (refusal _)
    else .ok (some (toxicName (script.scene stage.windows) fault))) ≠ .ok none
  split <;> simp

/-- Every load window sees the outcomes of its scene. -/
def measure (script : Script) : StateM Stage (Option LoadStats) := do
  let scene := script.scene (← script.begin).windows
  modify fun stage =>
    { stage with windows := stage.windows + 1, cancelled := stage.cancelled || scene.cancels }
  let submitted := scene.submitted.getD scene.outcomes.length
  return if scene.panics then none else some (.ofOutcomes submitted scene.outcomes)

def crew (script : Script) : Crew Stage where
  wait := return script.readiness
  isCancelled := Stage.cancelled
  perform := script.perform
  tells_toxic := script.perform_inject_ne
  measure _ _ := script.measure
  now := return script.time

end Script

end FaultDrill
