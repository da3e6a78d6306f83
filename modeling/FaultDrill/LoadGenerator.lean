import FaultDrill.Http.Client
import FaultDrill.LoadWindow
import FaultDrill.Settings.Basic

/-!
Load on one address of the system under test: every submission of a load window
is one request, timed until the last byte of its response.
-/

namespace FaultDrill

structure LoadGenerator where
  client : Http.Client
  address : String
  concurrency : Nat

namespace LoadGenerator

/-- A generator of load on the target, whose key goes with every request. -/
def ofSettings (settings : Settings) : Except Http.ClientError LoadGenerator := do
  let http := settings.http
  return {
    client := ← Http.Client.build http http.timeout [(settings.target.keyHeader, settings.target.key)]
    address := settings.target.endpointUrl
    concurrency := max settings.load.concurrency.toNat 1 }

/-- Nanoseconds in milliseconds, by way of seconds. -/
def milliseconds (time : Nat) : Float :=
  (countToFloat (time / 1000000000) + countToFloat (time % 1000000000) / 1000000000) * 1000

/-- The outcome of a request. A response that was cut off counts as none. -/
def outcome (reply : Http.Client.Reply) : Outcome :=
  match reply.result with
  | .error _ => .transportFailure
  | .ok response =>
      if response.body.isSome then .ofResponse response.status (milliseconds reply.time)
      else .transportFailure

/-- The reply to a request, waited for until the last byte of its body. -/
def reply (generator : LoadGenerator) (network : Http.Network) :
    StateM Http.Traffic Http.Client.Reply := do
  let client := generator.client
  return client.read (← client.send network .get generator.address none)

/-- The replies to so many requests, numbered from the first one on. The network may be
another for each of them. -/
def replies (generator : LoadGenerator) (network : Nat → Http.Network) (number : Nat) :
    Nat → StateM Http.Traffic (List Http.Client.Reply)
  | 0 => return []
  | count + 1 => do
      let first ← generator.reply (network number)
      return first :: (← generator.replies network (number + 1) count)

/-- What comes of a request whose worker may break down before it has reported. -/
def fate (breaksDown : Bool) (reply : Http.Client.Reply) : LoadWindow.Fate :=
  ⟨reply.time, if breaksDown then none else some (outcome reply)⟩

/-- Sends a request for each submission. Requests start in the order of their
submissions, and are numbered in that order. -/
def requests (generator : LoadGenerator) (network : Nat → Http.Network)
    (breaksDown : Nat → Bool) (submissions : List Nat) :
    StateM Http.Traffic (List (Nat × LoadWindow.Fate)) := do
  let replies ← generator.replies network 0 submissions.length
  return submissions.zip (replies.mapIdx fun number reply => fate (breaksDown number) reply)

/-- What a load window came to, and how many nanoseconds it took. -/
structure Measurement where
  time : Nat
  stats : LoadStats

/-- Opens a load window while the clock shows `now` seconds, with ticks as late and
workers as frail as told, and closes it early if it is cancelled. The network may change
from request to request. A window that cannot be opened has seen nothing. -/
def runAmid (generator : LoadGenerator) (network : Nat → Http.Network) (now : Nat)
    (lateness : Nat → Nat) (cancelled : Option Nat) (length : Duration) (rate : Float)
    (breaksDown : Nat → Bool) : StateM Http.Traffic Measurement := do
  match LoadWindow.ofRate? now length rate with
  | none => return ⟨0, .ofOutcomes 0 []⟩
  | some window =>
      let requests ← generator.requests network breaksDown
        (window.submissions lateness cancelled)
      let drained := (LoadWindow.pool generator.concurrency requests).drained
      return ⟨max (window.closing cancelled) drained,
        LoadWindow.stats generator.concurrency requests⟩

/-- Opens a load window on a network that stays as it is. -/
def run (generator : LoadGenerator) (network : Http.Network) (now : Nat) (lateness : Nat → Nat)
    (cancelled : Option Nat) (length : Duration) (rate : Float)
    (breaksDown : Nat → Bool := fun _ => false) : StateM Http.Traffic Measurement :=
  generator.runAmid (fun _ => network) now lateness cancelled length rate breaksDown

end LoadGenerator

end FaultDrill
