import FaultDrill.Http.Client
import FaultDrill.Json.Reader
import FaultDrill.Settings.Target
import FaultDrill.Value.Members

/-!
Waiting for the system under test to be ready. It is polled over and over, one
poll after another, until it says that it is up or time has run out. Times are in
nanoseconds from the start of the wait.
-/

namespace FaultDrill

structure Probe where
  client : Http.Client
  /-- Where the health of the target is told. -/
  address : String
  timeout : Duration
  /-- The time from the end of a poll to the start of the next. -/
  interval : Duration

namespace Probe

/-- A probe of a target. No poll may take longer than the whole wait. -/
def ofSettings (http : HttpSettings) (target : Target) : Except Http.ClientError Probe := do
  return {
    client := ← Http.Client.build http target.readinessTimeout []
    address := target.healthUrl
    timeout := target.readinessTimeout
    interval := target.pollInterval }

/-! Polls -/

/-- The status that a body tells. -/
def status? (body : List UInt8) : Option String := do
  let members ← Source.members? ["status"] (← Json.parseBytes body)
  Source.required Source.text? "status" members

/-- A target is ready if it answers in full, with status 200, that it is up. -/
def isReady (response : Http.Response) : Bool :=
  response.status = 200 && response.body.bind status? == some "UP"

/-- What a poll found, and how long it took. -/
structure Poll where
  time : Nat
  ready : Bool
  deriving DecidableEq

/-- One poll that is given up after a limit. Whatever goes wrong, the target is
not ready. -/
def poll (probe : Probe) (network : Http.Network) (limit : Nat) : StateM Http.Traffic Poll := do
  let client := probe.client.within limit
  let reply ← client.send network .get probe.address none
  let reply := if reply.status? = some 200 then client.read reply else reply
  match reply.result with
  | .ok response => return ⟨reply.time, isReady response⟩
  | .error _ => return ⟨reply.time, false⟩

/-! Waiting -/

/-- How a wait ended. -/
structure Wait where
  time : Nat
  ready : Bool
  /-- How many polls were started. -/
  polls : Nat
  deriving DecidableEq

/-- Polls until a limit. A poll is told when it starts and how much time is left. Clocks
move on between two polls, by at least a nanosecond. -/
def pollUntil {world : Type} (poll : (start left : Nat) → StateM world Poll) (limit interval : Nat)
    (now polls : Nat) : StateM world Wait :=
  if limit ≤ now then pure ⟨limit, false, polls⟩
  else do
    let found ← poll now (limit - now)
    if found.ready && now + found.time < limit then
      return ⟨now + found.time, true, polls + 1⟩
    else pollUntil poll limit interval (now + max 1 (found.time + interval)) (polls + 1)
termination_by limit - now

/-- When a wait is over at the latest: at the probe's timeout or, if there is one, at an
earlier limit. -/
def deadline (probe : Probe) (limit : Option Nat) : Nat :=
  limit.elim probe.timeout.toNat (min probe.timeout.toNat)

/-- Waits until the target is ready, but not beyond the deadline, while the network may
change from poll to poll: it goes by the time at which a poll starts. -/
def waitAmid (probe : Probe) (network : Nat → Http.Network) (limit : Option Nat) :
    StateM Http.Traffic Wait :=
  pollUntil (fun start left => probe.poll (network start) left) (probe.deadline limit)
    probe.interval.toNat 0 0

/-- Waits on a network that stays as it is. -/
def wait (probe : Probe) (network : Http.Network) (limit : Option Nat) :
    StateM Http.Traffic Wait :=
  probe.waitAmid (fun _ => network) limit

end Probe

end FaultDrill
