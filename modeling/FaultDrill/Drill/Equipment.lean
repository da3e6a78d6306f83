import FaultDrill.Drill.Run
import FaultDrill.LoadGenerator
import FaultDrill.Probe

/-!
What a drill in the field is run with: a probe, a client for the control plane
and a generator of load, on a network where every answer takes its time. Times
are in nanoseconds from the start of the drill.
-/

namespace FaultDrill

structure Equipment where
  probe : Probe
  controlClient : Http.Client
  /-- The address of the control plane. -/
  controlAddress : String
  generator : LoadGenerator

namespace Equipment

/-- The equipment that settings ask for. The first part that cannot be built is
reported. -/
def ofSettings (settings : Settings) : Except Http.ClientError Equipment := do
  return {
    probe := ← Probe.ofSettings settings.http settings.target
    controlClient := ← Http.Client.ofSettings settings.http
    controlAddress := settings.controlPlane.apiUrl
    generator := ← LoadGenerator.ofSettings settings }

end Equipment

/-- What a drill cannot change. -/
structure Surroundings where
  network : Http.Network
  /-- The time at which the drill starts. -/
  startedAt : Instant
  /-- How late the ticks of load windows are. -/
  lateness : Nat → Nat := fun _ => 0
  /-- Which workers of load windows break down, by the number of their request. -/
  breaksDown : Nat → Bool := fun _ => false
  /-- When somebody interrupts the drill. -/
  interrupt : Option Nat := none

/-- What has happened since the start of a drill. -/
structure Site where
  traffic : Http.Traffic := []
  elapsed : Nat := 0

namespace Surroundings

variable (surroundings : Surroundings) (equipment : Equipment)

/-- The time that is left until the interrupt. -/
def timeLeft (site : Site) : Option Nat := surroundings.interrupt.map (· - site.elapsed)

def isInterrupted (site : Site) : Bool := surroundings.timeLeft site == some 0

def now : StateM Site Instant := do
  return surroundings.startedAt.after (← get).elapsed

/-- Something on the network that tells how long it took. -/
def spend {α : Type} (time : α → Nat) (act : StateM Http.Traffic α) : StateM Site α := fun site =>
  let (answer, traffic) := act site.traffic
  (answer, ⟨traffic, site.elapsed + time answer⟩)

def wait : StateM Site Readiness := do
  let left := surroundings.timeLeft (← get)
  let wait ← spend Probe.Wait.time (equipment.probe.wait surroundings.network left)
  if wait.ready then return .ready
  else if surroundings.isInterrupted (← get) then return .cancelled
  else return .timedOut

def perform (command : Command) : StateM Site (Except CommandError (Option String)) := do
  let (_, result) ← spend Prod.fst
    (command.perform equipment.controlClient surroundings.network equipment.controlAddress)
  return result

def measure (length : Duration) (rate : Float) : StateM Site (Option LoadStats) := do
  let site ← get
  let left := surroundings.timeLeft site
  let seconds := site.elapsed / 1000000000
  let measurement ← spend LoadGenerator.Measurement.time
    (equipment.generator.run surroundings.network seconds surroundings.lateness left length rate
      surroundings.breaksDown)
  return some measurement.stats

/-- The crew that works with some equipment. -/
def crew : Crew Site where
  wait := surroundings.wait equipment
  isCancelled := surroundings.isInterrupted
  perform := surroundings.perform equipment
  tells_toxic _ _ site := Command.perform_inject_ne _ _ _ _ _ site.traffic
  measure := surroundings.measure equipment
  now := surroundings.now

end Surroundings

/-- The drill that settings ask for. -/
def Drill.ofSettings (settings : Settings) : Drill where
  route := settings.controlPlane.route
  scenarios := settings.scenarios
  patience := settings.target.readinessTimeout

end FaultDrill
