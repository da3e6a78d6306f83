import FaultDrill.Http.Client

/-!
What a client exchanges with a network. A client that goes where responses send it
sends several requests, each behind the answer to the one before. A response that
leads nowhere else is the last of the answers, and the reply is about it.
-/

namespace FaultDrill.Http

theorem exchange_run (network : Network) (request : Request) (traffic : Traffic) :
    (exchange network request).run traffic =
      (network traffic request,
        if (network traffic request).reached then request :: traffic else traffic) := by
  unfold exchange
  by_cases reached : (network traffic request).reached
  · simp [reached]
    rfl
  · simp [reached]
    rfl

structure Exchange where
  /-- How many nanoseconds behind the first request this one was sent. -/
  sentAt : Nat
  request : Request
  answer : Answer

namespace Client

/-! ## Responses that lead elsewhere -/

/-- Whether an answer sends a client elsewhere: it is said by the status, and where to is said
by a location that can be made out. -/
def LeadsOn (request : Request) : Answer → Prop
  | .response _ response =>
      response.status.toNat ∈ [301, 302, 303, 307, 308] ∧
        ∃ location url, response.location = some location ∧ request.url.join location = .ok url
  | _ => False

theorem redirected?_eq_none {request : Request} {response : Response} {time : Nat} :
    redirected? request response = none ↔ ¬ LeadsOn request (.response time response) := by
  have listed : response.status.toNat ∈ [301, 302, 303, 307, 308] ↔
      response.status = 307 ∨ response.status = 308 ∨ response.status = 301 ∨
        response.status = 302 ∨ response.status = 303 := by
    simp only [← UInt16.toNat_inj]
    simp
    omega
  rw [LeadsOn, listed, redirected?]
  cases response.location with
  | none => simp
  | some location =>
      cases joined : request.url.join location with
      | error error => simp [joined, Except.toOption]
      | ok url =>
          simp only [Except.toOption]
          grind

variable (client : Client) (network : Network)

/-! ## Requests one after another -/

def exchangesFrom : (hops spent : Nat) → Request → Traffic → List Exchange
  | 0, spent, request, traffic => [⟨spent, request, network traffic request⟩]
  | hops + 1, spent, request, traffic =>
      ⟨spent, request, network traffic request⟩ ::
        match client.heed spent request (network traffic request) with
        | .done _ => []
        | .onward spent next => exchangesFrom hops spent next (request :: traffic)

theorem exchangesFrom_head (hops spent : Nat) (request : Request) (traffic : Traffic) :
    (client.exchangesFrom network hops spent request traffic).head? =
      some ⟨spent, request, network traffic request⟩ := by
  cases hops <;> rfl

/-- Only a response leads on. -/
theorem response_of_onward {spent later : Nat} {request next : Request} {answer : Answer}
    (onward : client.heed spent request answer = .onward later next) :
    ∃ time response, answer = .response time response ∧
      redirected? request response = some (.ok next) := by
  cases answer with
  | refused time =>
      rw [heed] at onward
      split at onward <;> cases onward
  | closed time =>
      rw [heed] at onward
      split at onward <;> cases onward
  | silence => cases onward
  | response time response =>
      refine ⟨time, response, rfl, ?_⟩
      rw [heed] at onward
      split at onward
      · cases onward
      · split at onward
        · cases onward
        · cases onward
        · rename_i leads
          cases onward
          exact leads

theorem reached_of_onward {spent later : Nat} {request next : Request} {answer : Answer}
    (onward : client.heed spent request answer = .onward later next) : answer.reached := by
  rcases client.response_of_onward onward with ⟨time, response, answered, _⟩
  rw [answered]
  rfl

theorem exists_done (spent : Nat) {request : Request} {answer : Answer}
    (ends : ¬ LeadsOn request answer) : ∃ reply, client.heed spent request answer = .done reply := by
  cases heeded : client.heed spent request answer with
  | done reply => exact ⟨reply, rfl⟩
  | onward later next =>
      rcases client.response_of_onward heeded with ⟨time, response, rfl, leads⟩
      cases leads.symm.trans (redirected?_eq_none.mpr ends)

theorem follow_of_done {hops spent : Nat} {request : Request} {traffic : Traffic} {reply : Reply}
    (heeded : client.heed spent request (network traffic request) = .done reply) :
    (client.follow network hops spent request).run traffic =
      (reply, if (network traffic request).reached then request :: traffic else traffic) := by
  cases hops <;>
  · rw [follow, StateT.run_bind, exchange_run]
    simp only [bind, heeded]
    rfl

theorem follow_of_onward {hops spent later : Nat} {request next : Request} {traffic : Traffic}
    (heeded : client.heed spent request (network traffic request) = .onward later next) :
    (client.follow network hops spent request).run traffic =
      match hops with
      | 0 => (⟨later, .error .tooManyRedirects⟩, request :: traffic)
      | hops + 1 => (client.follow network hops later next).run (request :: traffic) := by
  have reached := client.reached_of_onward heeded
  have exchanged : (exchange network request).run traffic =
      (network traffic request, request :: traffic) := by
    rw [exchange_run, if_pos reached]
  cases hops with
  | zero =>
      rw [follow, StateT.run_bind, exchanged]
      simp only [bind, heeded]
      rfl
  | succ hops =>
      rw [follow, StateT.run_bind, exchanged]
      simp only [bind, heeded]

theorem exchangesFrom_of_done {hops spent : Nat} {request : Request} {traffic : Traffic}
    {reply : Reply} (heeded : client.heed spent request (network traffic request) = .done reply) :
    client.exchangesFrom network hops spent request traffic =
      [⟨spent, request, network traffic request⟩] := by
  cases hops with
  | zero => rfl
  | succ hops => rw [exchangesFrom, heeded]

theorem exchangesFrom_of_onward {hops spent later : Nat} {request next : Request}
    {traffic : Traffic}
    (heeded : client.heed spent request (network traffic request) = .onward later next) :
    client.exchangesFrom network hops spent request traffic =
      ⟨spent, request, network traffic request⟩ ::
        match hops with
        | 0 => []
        | hops + 1 => client.exchangesFrom network hops later next (request :: traffic) := by
  cases hops with
  | zero => rfl
  | succ hops => rw [exchangesFrom, heeded]

/-- Requests are followed until one is done with, or leads on when no more hops are left. -/
@[elab_as_elim]
theorem followInduction {motive : (hops spent : Nat) → Request → Traffic → Prop}
    (done : ∀ hops spent request traffic reply,
      client.heed spent request (network traffic request) = .done reply →
        motive hops spent request traffic)
    (exhausted : ∀ spent request traffic later next,
      client.heed spent request (network traffic request) = .onward later next →
        motive 0 spent request traffic)
    (onward : ∀ hops spent request traffic later next,
      client.heed spent request (network traffic request) = .onward later next →
        motive hops later next (request :: traffic) → motive (hops + 1) spent request traffic)
    (hops spent : Nat) (request : Request) (traffic : Traffic) :
    motive hops spent request traffic := by
  induction hops generalizing spent request traffic with
  | zero =>
      cases heeded : client.heed spent request (network traffic request) with
      | done reply => exact done 0 spent request traffic reply heeded
      | onward later next => exact exhausted spent request traffic later next heeded
  | succ hops induction =>
      cases heeded : client.heed spent request (network traffic request) with
      | done reply => exact done (hops + 1) spent request traffic reply heeded
      | onward later next =>
          exact onward hops spent request traffic later next heeded (induction later next _)

/-- The requests that were exchanged and reached a server make up the traffic. -/
theorem follow_traffic (hops spent : Nat) (request : Request) (traffic : Traffic) :
    ((client.follow network hops spent request).run traffic).2 =
      (((client.exchangesFrom network hops spent request traffic).filter
        (·.answer.reached)).map Exchange.request).reverse ++ traffic := by
  induction hops, spent, request, traffic using followInduction client network with
  | done hops spent request traffic reply heeded =>
      rw [follow_of_done client network heeded, exchangesFrom_of_done client network heeded]
      cases reached : (network traffic request).reached <;> simp [reached]
  | exhausted spent request traffic later next heeded =>
      rw [follow_of_onward client network heeded, exchangesFrom_of_onward client network heeded]
      simp [client.reached_of_onward heeded]
  | onward hops spent request traffic later next heeded induction =>
      rw [follow_of_onward client network heeded, exchangesFrom_of_onward client network heeded]
      refine induction.trans ?_
      simp [client.reached_of_onward heeded]

/-- The reply about a response whose head is there after some nanoseconds. -/
def replyTo (time : Nat) (response : Response) : Reply :=
  if client.timeout < time then ⟨client.timeout, .error .timedOut⟩ else ⟨time, .ok response⟩

theorem heed_direct (spent time : Nat) {request : Request} {response : Response}
    (direct : redirected? request response = none) :
    client.heed spent request (.response time response) =
      .done (client.replyTo (spent + time) response) := by
  rw [heed, replyTo]
  split
  · rfl
  · rw [direct]

/-- A response that leads nowhere else decides the reply. -/
theorem follow_reply (hops spent : Nat) (request : Request) (traffic : Traffic)
    {exchange : Exchange} {time : Nat} {response : Response}
    (member : exchange ∈ client.exchangesFrom network hops spent request traffic)
    (answered : exchange.answer = .response time response)
    (direct : redirected? exchange.request response = none) :
    ((client.follow network hops spent request).run traffic).1 =
      client.replyTo (exchange.sentAt + time) response := by
  -- The response answers the first request, or what that one led on to.
  have ofFirst (hops spent : Nat) (request : Request) (traffic : Traffic)
      (first : exchange = ⟨spent, request, network traffic request⟩) :
      ((client.follow network hops spent request).run traffic).1 =
        client.replyTo (exchange.sentAt + time) response := by
    subst first
    dsimp only at answered direct
    have heeded := client.heed_direct spent time direct
    rw [← answered] at heeded
    rw [follow_of_done client network heeded]
  induction hops, spent, request, traffic using followInduction client network with
  | done hops spent request traffic reply heeded =>
      rw [exchangesFrom_of_done client network heeded] at member
      exact ofFirst hops spent request traffic (List.mem_singleton.mp member)
  | exhausted spent request traffic later next heeded =>
      exact ofFirst 0 spent request traffic (List.mem_singleton.mp member)
  | onward hops spent request traffic later next heeded induction =>
      rw [exchangesFrom_of_onward client network heeded] at member
      rcases List.mem_cons.mp member with first | later
      · exact ofFirst (hops + 1) spent request traffic first
      · rw [follow_of_onward client network heeded]
        exact induction later

/-- Only a response in full, and in time, is done with as one. -/
theorem answer_of_done {spent time : Nat} {request : Request} {answer : Answer}
    {response : Response} (heeded : client.heed spent request answer = .done ⟨time, .ok response⟩) :
    ∃ head, answer = .response head response ∧ redirected? request response = none ∧
      spent + head = time := by
  cases answer with
  | silence => cases heeded
  | refused head =>
      rw [heed] at heeded
      split at heeded <;> cases heeded
  | closed head =>
      rw [heed] at heeded
      split at heeded <;> cases heeded
  | response head known =>
      rw [heed] at heeded
      split at heeded
      · cases heeded
      · split at heeded
        · rename_i direct
          cases heeded
          exact ⟨head, rfl, direct, rfl⟩
        · cases heeded
        · cases heeded

/-- A response that a client gets is one that leads nowhere else. -/
theorem answer_of_follow {hops spent time : Nat} {request : Request} {traffic : Traffic}
    {response : Response}
    (replied : ((client.follow network hops spent request).run traffic).1 =
      ⟨time, .ok response⟩) :
    ∃ exchange ∈ client.exchangesFrom network hops spent request traffic, ∃ head,
      exchange.answer = .response head response ∧
        redirected? exchange.request response = none ∧ exchange.sentAt + head = time := by
  induction hops, spent, request, traffic using followInduction client network with
  | done hops spent request traffic reply heeded =>
      rw [follow_of_done client network heeded] at replied
      rw [exchangesFrom_of_done client network heeded]
      exact ⟨_, List.mem_singleton_self _, client.answer_of_done (replied ▸ heeded)⟩
  | exhausted spent request traffic later next heeded =>
      rw [follow_of_onward client network heeded] at replied
      cases replied
  | onward hops spent request traffic later next heeded induction =>
      rw [follow_of_onward client network heeded] at replied
      rw [exchangesFrom_of_onward client network heeded]
      rcases induction replied with ⟨exchange, member, answered⟩
      exact ⟨exchange, List.mem_cons_of_mem _ member, answered⟩

/-! ## Requests to written addresses -/

def request? (method : Method) (address : String) (body : Option Value) : Option Request :=
  match Url.parse address with
  | .error _ => none
  | .ok url =>
      let headers := match body with
        | none => client.headers
        | some _ => client.headers.set "content-type" "application/json"
      if isReachable url then some ⟨method, url, headers, body.map Json.compact⟩ else none

/-- A request for an address of the web. With a body comes a header that tells what it is. -/
def requestTo (method : Method) (url : Url) (body : Option Value) : Request where
  method := method
  url := url
  headers :=
    if body.isSome then client.headers.set "content-type" "application/json" else client.headers
  body := body.map Json.compact

theorem isReachable_iff {url : Url} :
    isReachable url = true ↔ url.scheme = "http" ∨ url.scheme = "https" := by
  rw [isReachable, Bool.or_eq_true, decide_eq_true_eq, decide_eq_true_eq]

theorem request?_of_parse {address : String} {url : Url} (parsed : Url.parse address = .ok url)
    (reachable : isReachable url) (method : Method) (body : Option Value) :
    client.request? method address body = some (client.requestTo method url body) := by
  unfold request?
  rw [parsed]
  cases body <;> exact if_pos reachable

theorem parse_of_request? {method : Method} {address : String} {body : Option Value}
    {request : Request} (sent : client.request? method address body = some request) :
    Url.parse address = .ok request.url ∧ isReachable request.url ∧ request.method = method ∧
      request.body = body.map Json.compact := by
  unfold request? at sent
  cases parsed : Url.parse address with
  | error error =>
      rw [parsed] at sent
      cases sent
  | ok url =>
      rw [parsed] at sent
      dsimp only at sent
      split at sent
      · cases sent
        exact ⟨rfl, ‹_›, rfl, rfl⟩
      · cases sent

def exchanges (method : Method) (address : String) (body : Option Value) (traffic : Traffic) :
    List Exchange :=
  match client.request? method address body with
  | none => []
  | some request => client.exchangesFrom network client.redirects 0 request traffic

theorem send_run (method : Method) (address : String) (body : Option Value) (traffic : Traffic) :
    (client.send network method address body).run traffic =
      match client.request? method address body with
      | none => (⟨0, .error .badAddress⟩, traffic)
      | some request => (client.follow network client.redirects 0 request).run traffic := by
  unfold send request?
  cases Url.parse address with
  | error error => rfl
  | ok url =>
      dsimp only
      cases isReachable url <;> rfl

theorem send_traffic (method : Method) (address : String) (body : Option Value)
    (traffic : Traffic) :
    ((client.send network method address body).run traffic).2 =
      (((client.exchanges network method address body traffic).filter
        (·.answer.reached)).map Exchange.request).reverse ++ traffic := by
  rw [send_run, exchanges]
  cases client.request? method address body with
  | none => rfl
  | some request => exact client.follow_traffic network _ _ request traffic

theorem exchanges_head (method : Method) (address : String) (body : Option Value)
    (traffic : Traffic) :
    (client.exchanges network method address body traffic).head?.map Exchange.request =
      client.request? method address body := by
  rw [exchanges]
  cases client.request? method address body with
  | none => rfl
  | some request =>
      exact congrArg (Option.map Exchange.request)
        (client.exchangesFrom_head network _ _ request traffic)

/-- The first exchange of a request for an address of the web, and the only one unless the
answer leads elsewhere. -/
structure StartsWith (network : Network) (traffic : Traffic) (request : Request)
    (exchanges : List Exchange) : Prop where
  first : exchanges.head? = some ⟨0, request, network traffic request⟩
  only : ¬ LeadsOn request (network traffic request) →
    exchanges = [⟨0, request, network traffic request⟩]

theorem exchanges_startsWith {address : String} {url : Url} (parsed : Url.parse address = .ok url)
    (reachable : url.scheme = "http" ∨ url.scheme = "https") (method : Method)
    (body : Option Value) (traffic : Traffic) :
    StartsWith network traffic (client.requestTo method url body)
      (client.exchanges network method address body traffic) := by
  rw [exchanges, client.request?_of_parse parsed (isReachable_iff.mpr reachable)]
  constructor
  · exact client.exchangesFrom_head network _ _ _ traffic
  · intro ends
    rcases client.exists_done 0 ends with ⟨reply, heeded⟩
    exact client.exchangesFrom_of_done network heeded

theorem request?_of_exchange {method : Method} {address : String} {body : Option Value}
    {traffic : Traffic} {exchange : Exchange}
    (member : exchange ∈ client.exchanges network method address body traffic) :
    ∃ request, client.request? method address body = some request := by
  cases sent : client.request? method address body with
  | none =>
      rw [exchanges, sent] at member
      cases member
  | some request => exact ⟨request, rfl⟩

theorem exchanges_eq_nil {method : Method} {address : String} {body : Option Value}
    {traffic : Traffic} (nothing : client.exchanges network method address body traffic = []) :
    client.request? method address body = none := by
  have first := client.exchanges_head network method address body traffic
  rw [nothing] at first
  exact first.symm

theorem send_reply {method : Method} {address : String} {body : Option Value} {traffic : Traffic}
    {exchange : Exchange} {time : Nat} {response : Response}
    (member : exchange ∈ client.exchanges network method address body traffic)
    (answered : exchange.answer = .response time response)
    (direct : redirected? exchange.request response = none) :
    ((client.send network method address body).run traffic).1 =
      client.replyTo (exchange.sentAt + time) response := by
  rcases client.request?_of_exchange network member with ⟨request, sent⟩
  rw [exchanges, sent] at member
  rw [send_run, sent]
  exact client.follow_reply network _ _ request traffic member answered direct

theorem answer_of_send {method : Method} {address : String} {body : Option Value}
    {traffic : Traffic} {time : Nat} {response : Response}
    (replied : ((client.send network method address body).run traffic).1 =
      ⟨time, .ok response⟩) :
    ∃ exchange ∈ client.exchanges network method address body traffic, ∃ head,
      exchange.answer = .response head response ∧
        redirected? exchange.request response = none ∧ exchange.sentAt + head = time := by
  rw [send_run] at replied
  rw [exchanges]
  cases sent : client.request? method address body with
  | none =>
      rw [sent] at replied
      cases replied
  | some request =>
      rw [sent] at replied
      exact client.answer_of_follow network replied

/-- A client gets the response that leads nowhere else, if it is there before the client gives
up. -/
theorem send_eq_ok {method : Method} {address : String} {body : Option Value} {traffic : Traffic}
    {time : Nat} {response : Response} :
    ((client.send network method address body).run traffic).1 = ⟨time, .ok response⟩ ↔
      ∃ exchange ∈ client.exchanges network method address body traffic, ∃ head,
        exchange.answer = .response head response ∧ ¬ LeadsOn exchange.request exchange.answer ∧
          exchange.sentAt + head = time ∧ time ≤ client.timeout := by
  constructor
  · intro replied
    rcases client.answer_of_send network replied with
      ⟨exchange, member, head, answered, direct, behind⟩
    have known := client.send_reply network member answered direct
    rw [replied, replyTo, behind] at known
    refine ⟨exchange, member, head, answered, ?_, behind, ?_⟩
    · rw [answered]
      exact redirected?_eq_none.mp direct
    · by_cases late : client.timeout < time
      · rw [if_pos late] at known
        cases known
      · exact Nat.not_lt.mp late
  · rintro ⟨exchange, member, head, answered, ends, behind, inTime⟩
    rw [answered] at ends
    rw [client.send_reply network member answered (redirected?_eq_none.mpr ends), behind, replyTo,
      if_neg (Nat.not_lt.mpr inTime)]

end Client

end FaultDrill.Http
