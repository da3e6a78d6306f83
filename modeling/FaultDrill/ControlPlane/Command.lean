import FaultDrill.Fault.Basic
import FaultDrill.Http.Client
import FaultDrill.Json.Reader
import FaultDrill.Settings.ControlPlane
import FaultDrill.Text.Utf8
import FaultDrill.Value.Members

/-!
What a drill asks of the control plane. Each command is at most one request, and
the response decides whether the control plane did what it was asked.
-/

namespace FaultDrill

inductive Command where
  /-- Take all toxics away and switch every route on. -/
  | reset
  /-- Make a route that passes everything on; one of that name may be there. -/
  | configure (route : Route)
  | inject (route : String) (fault : Fault)
  /-- Take a toxic away. Nothing was injected if there is none. -/
  | remove (route : String) (toxic : Option String)
  /-- Switch a route on or off. -/
  | enable (route : String) (enabled : Bool)
  deriving DecidableEq

/-- Why a command had no effect, or none that is known. -/
inductive CommandError where
  | noResponse (operation : String) (failure : Http.Client.Failure)
  | rejected (operation : String) (status : UInt16) (body : String)
  /-- The response does not say which toxic was injected. -/
  | unreadable (operation : String)
  /-- The fault is a switch of the route and no toxic. -/
  | notAToxic (fault : Fault)
  deriving DecidableEq

def CommandError.message : CommandError → String
  | .noResponse operation failure =>
      let reason := failure.message
      s!"Control plane request failed during {operation}: {reason}"
  | .rejected operation status body =>
      s!"Control plane rejected {operation} with HTTP {status}: {body}"
  | .unreadable operation =>
      s!"Invalid control plane response to {operation}: error decoding response body"
  | .notAToxic fault =>
      let label := fault.label
      s!"Fault '{label}' is applied by toggling the route, not as a toxic"

namespace Command

def operation : Command → String
  | .reset => "reset"
  | .configure _ => "configure route"
  | .inject _ _ => "inject fault"
  | .remove _ _ => "remove fault"
  | .enable _ _ => "toggle route"

/-! Requests -/

/-- What is sent for a command, to a path at the address of the control plane. -/
structure Order where
  method : Http.Method
  path : String
  body : Option Value

/-- The request for a toxic. -/
def toxicValue (toxic : Toxic) : Value :=
  .ofFields
    [("attributes",
        .ofFields (toxic.attributes.map fun (name, number) => (name, .natural number))),
     ("type", .text toxic.kind)]

/-- The order for a command, if it takes one. -/
def order? : Command → Except CommandError (Option Order)
  | .reset => .ok (some ⟨.post, "/reset", none⟩)
  | .configure route =>
      .ok (some ⟨.post, "/proxies", some (.ofFields
        [("enabled", .truth true), ("listen", .text route.listen), ("name", .text route.name),
         ("upstream", .text route.upstream)])⟩)
  | .inject route fault =>
      match fault.toxic? with
      | some toxic =>
          .ok (some ⟨.post, "/proxies/" ++ route ++ "/toxics", some (toxicValue toxic)⟩)
      | none => .error (.notAToxic fault)
  | .remove _ none => .ok none
  | .remove route (some toxic) =>
      .ok (some ⟨.delete, "/proxies/" ++ route ++ "/toxics/" ++ toxic, none⟩)
  | .enable route enabled =>
      .ok (some ⟨.post, "/proxies/" ++ route, some (.ofFields [("enabled", .truth enabled)])⟩)

/-! Responses -/

def isSuccess (status : UInt16) : Bool := 200 ≤ status && status < 300

/-- Whether a status says that a command was carried out. A route that is there
already need not be made. -/
def accepts : Command → UInt16 → Bool
  | .configure _, status => status = 409 || isSuccess status
  | _, status => isSuccess status

/-- Whether the body of a response with a status matters: it tells why something
was rejected, or which toxic was injected. -/
def reads (command : Command) (status : UInt16) : Bool :=
  !command.accepts status || command matches .inject _ _

/-- The name of the toxic in the body of a response. -/
def toxicName? (body : List UInt8) : Option String := do
  let members ← Source.members? ["name"] (← Json.parseBytes body)
  Source.required Source.text? "name" members

/-- What a response to a command means: an error, or for a toxic its name. -/
def conclude (command : Command) (response : Http.Response) :
    Except CommandError (Option String) :=
  if command.accepts response.status then
    match command with
    | .inject _ _ =>
        match response.body.bind toxicName? with
        | some name => .ok (some name)
        | none => .error (.unreadable command.operation)
    | _ => .ok none
  else
    let body := (response.body.map Text.ofBytes).getD ""
    .error (.rejected command.operation response.status body)

/-- What became of a command, and after how long, by the reply to its request. A
body that matters is waited for. -/
def settle (client : Http.Client) (command : Command) (reply : Http.Client.Reply) :
    Nat × Except CommandError (Option String) :=
  let reply := if reply.status?.any command.reads then client.read reply else reply
  match reply.result with
  | .error failure => (reply.time, .error (.noResponse command.operation failure))
  | .ok response => (reply.time, command.conclude response)

/-- Carries out a command with a client at an address. The time that it took
comes first. -/
def perform (client : Http.Client) (network : Http.Network) (address : String)
    (command : Command) : StateM Http.Traffic (Nat × Except CommandError (Option String)) := do
  match command.order? with
  | .error error => return (0, .error error)
  | .ok none => return (0, .ok none)
  | .ok (some order) =>
      let reply ← client.send network order.method (Url.withPath address order.path) order.body
      return command.settle client reply

/-- A command that takes an order is settled by the reply to it. -/
theorem perform_of_order (client : Http.Client) (network : Http.Network) (address : String)
    {command : Command} {order : Order} (ordered : command.order? = .ok (some order))
    (traffic : Http.Traffic) :
    (command.perform client network address).run traffic =
      ((client.send network order.method (Url.withPath address order.path) order.body).run
        traffic).map (command.settle client) id := by
  simp only [perform, ordered]
  rfl

/-! An injection that succeeds tells the toxic. -/

theorem conclude_inject_ne (route : String) (fault : Fault) (response : Http.Response) :
    (Command.inject route fault).conclude response ≠ .ok none := by
  unfold conclude
  split
  · dsimp only
    split <;> simp
  · simp

theorem settle_inject_ne (client : Http.Client) (route : String) (fault : Fault)
    (reply : Http.Client.Reply) :
    ((Command.inject route fault).settle client reply).2 ≠ .ok none := by
  unfold settle
  dsimp only
  split
  · simp
  · exact conclude_inject_ne route fault _

theorem perform_inject_ne (client : Http.Client) (network : Http.Network) (address : String)
    (route : String) (fault : Fault) (traffic : Http.Traffic) :
    (((Command.inject route fault).perform client network address).run traffic).1.2 ≠ .ok none := by
  cases kind : fault.toxic? with
  | none => simp [perform, order?, kind]
  | some toxic =>
      have ordered : (Command.inject route fault).order? =
          .ok (some ⟨.post, "/proxies/" ++ route ++ "/toxics", some (toxicValue toxic)⟩) := by
        simp [order?, kind]
      rw [perform_of_order client network address ordered, Prod.map_fst]
      exact settle_inject_ne client route fault _

end Command

end FaultDrill
