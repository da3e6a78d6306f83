import FaultDrill.ControlPlane.Command
import FaultDrill.Proofs.Http.Exchange

/-!
What a client takes from the answers to a command. A success counts only if it is
known in time, and an injection also takes a body that tells the toxic. The control
plane may have done what it was asked all the same.
-/

namespace FaultDrill.Command

/-! ## What is asked -/

/-- What commands ask for: a method, a path at the address of the control plane, and a body. -/
inductive Asks : Command → Http.Method → String → Option Value → Prop
  | reset : Asks .reset .post "/reset" none
  | configure (route : Route) :
      Asks (.configure route) .post "/proxies" (some (.ofFields
        [("enabled", .truth true), ("listen", .text route.listen), ("name", .text route.name),
          ("upstream", .text route.upstream)]))
  | latency (route : String) (delay jitter : UInt64) :
      Asks (.inject route (.latency delay jitter)) .post ("/proxies/" ++ route ++ "/toxics")
        (some (.ofFields
          [("attributes", .ofFields [("jitter", .natural jitter), ("latency", .natural delay)]),
            ("type", .text "latency")]))
  | bandwidth (route : String) (rate : UInt64) :
      Asks (.inject route (.bandwidth rate)) .post ("/proxies/" ++ route ++ "/toxics")
        (some (.ofFields
          [("attributes", .ofFields [("rate", .natural rate)]), ("type", .text "bandwidth")]))
  | remove (route toxic : String) :
      Asks (.remove route (some toxic)) .delete ("/proxies/" ++ route ++ "/toxics/" ++ toxic) none
  | enable (route : String) (enabled : Bool) :
      Asks (.enable route enabled) .post ("/proxies/" ++ route)
        (some (.ofFields [("enabled", .truth enabled)]))

/-- Only commands that have nothing to do, and faults that are no toxics, ask for nothing. -/
theorem asks_or_nothing (command : Command) :
    (∃ method path body, Asks command method path body) ∨
      (∃ route, command = .remove route none) ∨ ∃ route, command = .inject route .disable := by
  match command with
  | .reset => exact .inl ⟨_, _, _, .reset⟩
  | .configure route => exact .inl ⟨_, _, _, .configure route⟩
  | .inject route (.latency delay jitter) => exact .inl ⟨_, _, _, .latency route delay jitter⟩
  | .inject route (.bandwidth rate) => exact .inl ⟨_, _, _, .bandwidth route rate⟩
  | .inject route .disable => exact .inr (.inr ⟨route, rfl⟩)
  | .remove route (some toxic) => exact .inl ⟨_, _, _, .remove route toxic⟩
  | .remove route none => exact .inr (.inl ⟨route, rfl⟩)
  | .enable route enabled => exact .inl ⟨_, _, _, .enable route enabled⟩

theorem exists_asks_inject (route : String) {fault : Fault} (isToxic : fault ≠ .disable) :
    ∃ body, Asks (.inject route fault) .post ("/proxies/" ++ route ++ "/toxics") body := by
  cases fault with
  | latency delay jitter => exact ⟨_, .latency route delay jitter⟩
  | bandwidth rate => exact ⟨_, .bandwidth route rate⟩
  | disable => exact absurd rfl isToxic

theorem Asks.order?_eq {command : Command} {method : Http.Method} {path : String}
    {body : Option Value} (asks : Asks command method path body) :
    command.order? = .ok (some ⟨method, path, body⟩) := by
  cases asks <;> rfl

variable (client : Http.Client) (network : Http.Network) (address : String)

def request? (command : Command) : Option Http.Request :=
  match command.order? with
  | .ok (some order) =>
      client.request? order.method (Url.withPath address order.path) order.body
  | _ => none

theorem Asks.request?_eq {command : Command} {method : Http.Method} {path : String}
    {body : Option Value} (asks : Asks command method path body) :
    command.request? client address = client.request? method (Url.withPath address path) body := by
  rw [request?, asks.order?_eq]

/-! ## What is exchanged -/

def exchanges (command : Command) (traffic : Http.Traffic) : List Http.Exchange :=
  match command.order? with
  | .ok (some order) =>
      client.exchanges network order.method (Url.withPath address order.path) order.body traffic
  | _ => []

/-- The request for a command is the first that is exchanged. -/
theorem exchanges_head (command : Command) (traffic : Http.Traffic) :
    (command.exchanges client network address traffic).head?.map Http.Exchange.request =
      command.request? client address := by
  rw [exchanges, request?]
  match command.order? with
  | .ok (some order) => exact client.exchanges_head network order.method _ order.body traffic
  | .ok none => rfl
  | .error error => rfl

theorem order?_of_exchange (command : Command) (traffic : Http.Traffic) {exchange : Http.Exchange}
    (member : exchange ∈ command.exchanges client network address traffic) :
    ∃ order, command.order? = .ok (some order) := by
  rw [exchanges] at member
  match ordered : command.order? with
  | .ok (some order) => exact ⟨order, rfl⟩
  | .ok none =>
      rw [ordered] at member
      cases member
  | .error error =>
      rw [ordered] at member
      cases member

theorem request?_of_exchange (command : Command) (traffic : Http.Traffic)
    {exchange : Http.Exchange}
    (member : exchange ∈ command.exchanges client network address traffic) :
    ∃ request, command.request? client address = some request := by
  rcases order?_of_exchange client network address command traffic member with ⟨order, ordered⟩
  rw [exchanges, ordered] at member
  rw [request?, ordered]
  exact client.request?_of_exchange network member

/-! ## What is made of the response -/

/-- A success leads nowhere else. -/
theorem redirected?_of_isSuccess (request : Http.Request) {response : Http.Response}
    (success : isSuccess response.status) : Http.Client.redirected? request response = none := by
  rw [isSuccess, Bool.and_eq_true, decide_eq_true_eq, decide_eq_true_eq] at success
  have below : ∀ status : UInt16, 300 ≤ status → response.status ≠ status := by
    intro status above equal
    exact absurd (equal ▸ success.2) (UInt16.not_lt.mpr above)
  unfold Http.Client.redirected?
  cases response.location with
  | none => rfl
  | some location =>
      simp [below 307 (by decide), below 308 (by decide), below 301 (by decide),
        below 302 (by decide), below 303 (by decide)]

theorem perform_success (command : Command) (traffic : Http.Traffic) {exchange : Http.Exchange}
    {time : Nat} {response : Http.Response}
    (member : exchange ∈ command.exchanges client network address traffic)
    (answered : exchange.answer = .response time response)
    (success : isSuccess response.status) :
    ((command.perform client network address).run traffic).1 =
      command.settle client (client.replyTo (exchange.sentAt + time) response) := by
  rcases order?_of_exchange client network address command traffic member with ⟨order, ordered⟩
  rw [exchanges, ordered] at member
  have reply := client.send_reply network member answered
    (redirected?_of_isSuccess exchange.request success)
  rw [perform_of_order client network address ordered, Prod.map_fst, reply]

theorem settle_late {command : Command} {time : Nat} (response : Http.Response)
    (late : client.timeout < time) :
    (command.settle client (client.replyTo time response)).2 =
      .error (.noResponse command.operation .timedOut) := by
  rw [Http.Client.replyTo, if_pos late]
  rfl

/-- A switch of a route that was made is known of if the response comes in time. -/
theorem settle_enable (route : String) (enabled : Bool) {time : Nat} {response : Http.Response}
    (success : isSuccess response.status) :
    ((Command.enable route enabled).settle client (client.replyTo time response)).2.toBool =
      decide (time ≤ client.timeout) := by
  by_cases late : client.timeout < time
  · rw [settle_late client response late, decide_eq_false (Nat.not_le.mpr late)]
    rfl
  · rw [decide_eq_true (Nat.not_lt.mp late), Http.Client.replyTo, if_neg late]
    have unread : (Command.enable route enabled).reads response.status = false := by
      simp [reads, accepts, success]
    rw [settle, if_neg (by simp [Http.Client.Reply.status?, Except.toOption, unread])]
    simp [conclude, accepts, success]
    rfl

/-- A toxic that was injected is known of if a body that tells it comes in time. -/
theorem settle_inject (route : String) (fault : Fault) {time : Nat} {response : Http.Response}
    (success : isSuccess response.status) :
    ((Command.inject route fault).settle client
        (client.replyTo time response)).2.toOption.join =
      if time + response.bodyTime ≤ client.timeout then response.body.bind toxicName?
      else none := by
  have accepted : ∀ body, ((Command.inject route fault).conclude
      { response with body }).toOption.join = body.bind toxicName? := by
    intro body
    rw [conclude, if_pos (show accepts (.inject route fault) response.status from success)]
    cases body.bind toxicName? <;> rfl
  by_cases late : client.timeout < time
  · rw [settle_late client response late, if_neg (by omega)]
    rfl
  · rw [Http.Client.replyTo, if_neg late, settle,
      if_pos (by simp [Http.Client.Reply.status?, reads, Except.toOption]), Http.Client.read]
    dsimp only
    by_cases lateBody : client.timeout < time + response.bodyTime
    · rw [if_pos lateBody, if_neg (by omega)]
      exact accepted none
    · rw [if_neg lateBody, if_pos (by omega)]
      exact accepted response.body

end FaultDrill.Command
