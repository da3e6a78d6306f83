import FaultDrill.ControlPlane.Command
import FaultDrill.Report.Basic

/-!
Those a drill is run with: somebody waits for the target, somebody talks to the
control plane, and somebody produces the load. What they do may change the world,
and their answers may depend on it.
-/

namespace FaultDrill

/-- How the wait for the target ended. -/
inductive Readiness where
  | ready
  | timedOut
  /-- The drill was cancelled first. -/
  | cancelled
  deriving Repr, DecidableEq

structure Crew (World : Type) where
  wait : StateM World Readiness
  isCancelled : World → Bool
  /-- Carries out a command. An injection that succeeds tells the toxic. -/
  perform : Command → StateM World (Except CommandError (Option String))
  tells_toxic : ∀ route fault world, ((perform (.inject route fault)).run world).1 ≠ .ok none
  /-- Opens a load window of a length at a rate. Nothing comes back if it breaks down. -/
  measure : Duration → Float → StateM World (Option LoadStats)
  now : StateM World Instant

/-- What a drill does to the world. -/
inductive Action where
  | command (command : Command)
  | measure (length : Duration) (rate : Float)

/-- Something that was done, and the world in which it was begun. -/
structure Deed (World : Type) where
  action : Action
  world : World

/-- A drill under way: the world, and what was done to it, the latest first. -/
structure Progress (World : Type) where
  world : World
  latest : List (Deed World) := []

namespace Progress

variable {World : Type}

/-- What was done, in the order in which it was begun. -/
def deeds (progress : Progress World) : List (Deed World) := progress.latest.reverse

/-- The actions in that order. -/
def journal (progress : Progress World) : List Action := progress.deeds.map Deed.action

end Progress

/-- Something that happens in the course of a drill. -/
abbrev Course (World : Type) := StateM (Progress World)

namespace Course

variable {World : Type}

/-- Something that the journal does not mention. -/
def quietly {α : Type} (act : StateM World α) : Course World α := fun progress =>
  let (answer, world) := act progress.world
  (answer, { progress with world := world })

/-- Something that is written into the journal before it is done. -/
def noted {α : Type} (action : Action) (act : StateM World α) : Course World α := fun progress =>
  let (answer, world) := act progress.world
  (answer, ⟨world, ⟨action, progress.world⟩ :: progress.latest⟩)

def perform (crew : Crew World) (command : Command) :
    Course World (Except CommandError (Option String)) :=
  noted (.command command) (crew.perform command)

def measure (crew : Crew World) (length : Duration) (rate : Float) :
    Course World (Option LoadStats) :=
  noted (.measure length rate) (crew.measure length rate)

def isCancelled (crew : Crew World) : Course World Bool := do
  return crew.isCancelled (← get).world

end Course

end FaultDrill
