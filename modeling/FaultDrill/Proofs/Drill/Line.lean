import FaultDrill.Drill.Equipment
import FaultDrill.Proofs.ControlPlane.Settlement

/-!
Crews whose commands go over a line to a control plane. The control plane may answer
each request in any way, at any time, or not at all.
-/

namespace FaultDrill

/-- How commands reach a control plane. What is known of the network and its traffic
depends on the world in any way. -/
structure Line (World : Type) where
  client : Http.Client
  address : String
  network : World → Http.Network
  traffic : World → Http.Traffic
  /-- The world behind a command that took some nanoseconds and led to some traffic. -/
  behind : World → Nat → Http.Traffic → World

variable {World : Type}

namespace Line

def perform (line : Line World) (command : Command) :
    StateM World (Except CommandError (Option String)) := fun world =>
  let ((time, result), traffic) :=
    command.perform line.client (line.network world) line.address (line.traffic world)
  (result, line.behind world time traffic)

def exchanges (line : Line World) (deed : Deed World) : List Http.Exchange :=
  match deed.action with
  | .command command =>
      command.exchanges line.client (line.network deed.world) line.address
        (line.traffic deed.world)
  | .measure _ _ => []

/-- The request that a deed sends to the control plane, if any. It is the first that is
exchanged; what follows it is up to the answers. -/
def request? (line : Line World) (deed : Deed World) : Option Http.Request :=
  (line.exchanges deed).head?.map Http.Exchange.request

def asks? (line : Line World) : Action → Option Http.Request
  | .command command => command.request? line.client line.address
  | .measure _ _ => none

theorem request?_eq_asks? (line : Line World) (deed : Deed World) :
    line.request? deed = line.asks? deed.action := by
  unfold request? exchanges asks?
  cases deed.action with
  | command command => exact Command.exchanges_head _ _ _ command _
  | measure length rate => rfl

theorem filterMap_request? (line : Line World) (deeds : List (Deed World)) :
    deeds.filterMap line.request? = (deeds.map Deed.action).filterMap line.asks? := by
  rw [List.filterMap_map]
  exact congrArg (fun asks => deeds.filterMap asks) (funext line.request?_eq_asks?)

end Line

/-- The crew whose commands go over a line. -/
def Crew.over (crew : Crew World) (line : Line World) : Crew World :=
  { crew with
    perform := line.perform
    tells_toxic := fun route fault world =>
      Command.perform_inject_ne line.client (line.network world) line.address route fault
        (line.traffic world) }

def Surroundings.line (surroundings : Surroundings) (equipment : Equipment) : Line Site where
  client := equipment.controlClient
  address := equipment.controlAddress
  network _ := surroundings.network
  traffic := Site.traffic
  behind site time traffic := ⟨traffic, site.elapsed + time⟩

/-- The crew of a drill in the field gives its commands over a line. -/
theorem Surroundings.crew_over (surroundings : Surroundings) (equipment : Equipment) :
    (surroundings.crew equipment).over (surroundings.line equipment) =
      surroundings.crew equipment := rfl

end FaultDrill
