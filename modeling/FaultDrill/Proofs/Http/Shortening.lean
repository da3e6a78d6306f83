import FaultDrill.Proofs.Http.Exchange

/-!
What becomes of a request if its client is given less time. Up to the limit all is as it
would have been: the same requests go out, and the same reply is there unless it would have
come later.
-/

namespace FaultDrill.Http

/-- How long it takes until something is known of what comes back, if that is ever. -/
def Answer.time? : Answer → Option Nat
  | .refused time | .closed time | .response time _ => some time
  | .silence => none

/-- When a client knows what to do next. -/
def Client.Step.time : Client.Step → Nat
  | .done reply => reply.time
  | .onward spent _ => spent

/-- The reply of a client that goes no further. -/
def Client.Step.reply : Client.Step → Client.Reply
  | .done reply => reply
  | .onward spent _ => ⟨spent, .error .tooManyRedirects⟩

theorem Client.Step.reply_time (step : Client.Step) : step.reply.time = step.time := by
  cases step <;> rfl

namespace Client

variable {client : Client} {network : Network} {limit spent : Nat} {request : Request}
  {traffic : Traffic}

/-! ## Answers -/

/-- The reply of a client that has waited for long enough. -/
def givenUp (time : Nat) : Reply := ⟨time, .error .timedOut⟩

/-- What an answer leads to that comes in time. -/
def judged (time : Nat) (request : Request) : Answer → Step
  | .response _ response =>
      match redirected? request response with
      | none => .done ⟨time, .ok response⟩
      | some (.error failure) => .done ⟨time, .error failure⟩
      | some (.ok next) => .onward time next
  | _ => .done ⟨time, .error .disconnected⟩

theorem judged_time (time : Nat) (request : Request) (answer : Answer) :
    (judged time request answer).time = time := by
  cases answer with
  | response head response =>
      rw [judged]
      split <;> rfl
  | _ => rfl

/-- A client gives up, or is in time for the answer. -/
theorem heed_eq (answer : Answer) :
    client.heed spent request answer =
      match answer.time? with
      | none => .done (givenUp client.timeout)
      | some time =>
          if client.timeout < spent + time then .done (givenUp client.timeout)
          else judged (spent + time) request answer := by
  cases answer <;> rfl

/-- When a client knows what comes of an exchange, at the latest when it gives up. -/
def knownAt (client : Client) (exchange : Exchange) : Nat :=
  match exchange.answer.time? with
  | none => client.timeout
  | some time => min client.timeout (exchange.sentAt + time)

theorem knownAt_le (client : Client) (exchange : Exchange) :
    client.knownAt exchange ≤ client.timeout := by
  rw [knownAt]
  split
  · exact Nat.le_refl _
  · exact Nat.min_le_left _ _

theorem heed_time (client : Client) (spent : Nat) (request : Request) (answer : Answer) :
    (client.heed spent request answer).time = client.knownAt ⟨spent, request, answer⟩ := by
  rw [heed_eq, knownAt]
  cases answer.time? with
  | none => rfl
  | some time =>
      dsimp only
      split
      · rename_i late
        exact (Nat.min_eq_left (Nat.le_of_lt late)).symm
      · rename_i inTime
        rw [judged_time, Nat.min_eq_right (Nat.not_lt.mp inTime)]

theorem heed_time_le (client : Client) (spent : Nat) (request : Request) (answer : Answer) :
    (client.heed spent request answer).time ≤ client.timeout :=
  heed_time client spent request answer ▸ client.knownAt_le _

/-- No client knows what to do next before it has sent its request. -/
theorem le_heed_time (request : Request) (answer : Answer) (begun : spent ≤ client.timeout) :
    spent ≤ (client.heed spent request answer).time := by
  rw [heed_time, knownAt]
  split
  · exact begun
  · exact Nat.le_min.mpr ⟨begun, Nat.le_add_right _ _⟩

theorem timeout_within (limit : Nat) :
    (client.within limit).timeout = min client.timeout limit := rfl

theorem heed_within_of_le {answer : Answer} {step : Step}
    (heeded : client.heed spent request answer = step) (early : step.time ≤ limit) :
    (client.within limit).heed spent request answer = step := by
  subst heeded
  rw [heed_eq] at early ⊢
  rw [heed_eq, timeout_within]
  cases known : answer.time? with
  | none =>
      rw [known] at early
      have long : client.timeout ≤ limit := early
      dsimp only
      rw [Nat.min_eq_left long]
  | some time =>
      rw [known] at early
      dsimp only at early ⊢
      by_cases late : client.timeout < spent + time
      · rw [if_pos late] at early ⊢
        have long : client.timeout ≤ limit := early
        rw [Nat.min_eq_left long, if_pos late]
      · rw [if_neg late, judged_time] at early
        rw [if_neg late, if_neg (by omega)]

theorem heed_within_of_lt {answer : Answer} {step : Step}
    (heeded : client.heed spent request answer = step) (late : limit < step.time) :
    (client.within limit).heed spent request answer = .done (givenUp limit) := by
  subst heeded
  have bound := client.heed_time_le spent request answer
  rw [heed_eq, timeout_within, Nat.min_eq_right (by omega)]
  rw [heed_eq] at late
  cases known : answer.time? with
  | none => rfl
  | some time =>
      rw [known] at late
      dsimp only at late ⊢
      split at late
      · have short : limit < client.timeout := late
        rw [if_pos (by omega)]
      · rw [judged_time] at late
        rw [if_pos late]

/-! ## Requests and what they lead on to -/

theorem le_of_done {reply : Reply} {answer : Answer} (begun : spent ≤ client.timeout)
    (heeded : client.heed spent request answer = .done reply) : spent ≤ reply.time := by
  have behind := le_heed_time request answer begun
  rwa [heeded] at behind

theorem le_of_onward {later : Nat} {next : Request} {answer : Answer}
    (begun : spent ≤ client.timeout)
    (heeded : client.heed spent request answer = .onward later next) :
    spent ≤ later ∧ later ≤ client.timeout := by
  have behind := le_heed_time request answer begun
  have bound := client.heed_time_le spent request answer
  rw [heeded] at behind bound
  exact ⟨behind, bound⟩

theorem le_follow_time (hops : Nat) (begun : spent ≤ client.timeout) :
    spent ≤ ((client.follow network hops spent request).run traffic).1.time := by
  induction hops, spent, request, traffic using followInduction client network with
  | done hops spent request traffic reply heeded =>
      rw [follow_of_done client network heeded]
      exact le_of_done begun heeded
  | exhausted spent request traffic later next heeded =>
      rw [follow_of_onward client network heeded]
      exact (le_of_onward begun heeded).1
  | onward hops spent request traffic later next heeded induction =>
      have behind := le_of_onward begun heeded
      rw [follow_of_onward client network heeded]
      exact Nat.le_trans behind.1 (induction behind.2)

theorem follow_time_le (hops : Nat) (begun : spent ≤ client.timeout) :
    ((client.follow network hops spent request).run traffic).1.time ≤ client.timeout := by
  induction hops, spent, request, traffic using followInduction client network with
  | done hops spent request traffic reply heeded =>
      have bound := client.heed_time_le spent request (network traffic request)
      rw [heeded] at bound
      rw [follow_of_done client network heeded]
      exact bound
  | exhausted spent request traffic later next heeded =>
      rw [follow_of_onward client network heeded]
      exact (le_of_onward begun heeded).2
  | onward hops spent request traffic later next heeded induction =>
      rw [follow_of_onward client network heeded]
      exact induction (le_of_onward begun heeded).2

/-- What a client makes of the answer to its last request is the reply. -/
theorem follow_last (hops spent : Nat) (request : Request) (traffic : Traffic) :
    ∃ last, (client.exchangesFrom network hops spent request traffic).getLast? = some last ∧
      ((client.follow network hops spent request).run traffic).1 =
        (client.heed last.sentAt last.request last.answer).reply := by
  induction hops, spent, request, traffic using followInduction client network with
  | done hops spent request traffic reply heeded =>
      rw [exchangesFrom_of_done client network heeded, follow_of_done client network heeded]
      exact ⟨⟨spent, request, network traffic request⟩, rfl, by rw [heeded, Step.reply]⟩
  | exhausted spent request traffic later next heeded =>
      rw [follow_of_onward client network heeded]
      exact ⟨⟨spent, request, network traffic request⟩, rfl, by rw [heeded, Step.reply]⟩
  | onward hops spent request traffic later next heeded induction =>
      rcases induction with ⟨last, isLast, known⟩
      rw [exchangesFrom_of_onward client network heeded, follow_of_onward client network heeded]
      refine ⟨last, ?_, known⟩
      dsimp only
      rw [List.getLast?_cons, isLast]
      rfl

/-- A reply that comes within the limit is there with less time as well. -/
theorem follow_within_of_le (hops : Nat) (begun : spent ≤ client.timeout)
    (early : ((client.follow network hops spent request).run traffic).1.time ≤ limit) :
    ((client.within limit).follow network hops spent request).run traffic =
      (client.follow network hops spent request).run traffic := by
  induction hops, spent, request, traffic using followInduction client network with
  | done hops spent request traffic reply heeded =>
      rw [follow_of_done client network heeded] at early ⊢
      rw [follow_of_done _ network (heed_within_of_le heeded early)]
  | exhausted spent request traffic later next heeded =>
      rw [follow_of_onward client network heeded] at early ⊢
      rw [follow_of_onward _ network (heed_within_of_le heeded early)]
  | onward hops spent request traffic later next heeded induction =>
      have begunNext := (le_of_onward begun heeded).2
      rw [follow_of_onward client network heeded] at early ⊢
      have known : later ≤ limit := Nat.le_trans (le_follow_time hops begunNext) early
      rw [follow_of_onward _ network (heed_within_of_le heeded known)]
      exact induction begunNext early

theorem follow_within_of_lt (hops : Nat)
    (late : limit < ((client.follow network hops spent request).run traffic).1.time) :
    (((client.within limit).follow network hops spent request).run traffic).1 =
      givenUp limit := by
  induction hops, spent, request, traffic using followInduction client network with
  | done hops spent request traffic reply heeded =>
      rw [follow_of_done client network heeded] at late
      rw [follow_of_done _ network (heed_within_of_lt heeded late)]
  | exhausted spent request traffic later next heeded =>
      rw [follow_of_onward client network heeded] at late
      rw [follow_of_done _ network (heed_within_of_lt heeded late)]
  | onward hops spent request traffic later next heeded induction =>
      rw [follow_of_onward client network heeded] at late
      by_cases known : later ≤ limit
      · rw [follow_of_onward _ network (heed_within_of_le heeded known)]
        exact induction late
      · rw [follow_of_done _ network (heed_within_of_lt heeded (Nat.not_le.mp known))]

/-! ## What is exchanged -/

theorem le_sentAt {hops : Nat} {exchange : Exchange} (begun : spent ≤ client.timeout)
    (member : exchange ∈ client.exchangesFrom network hops spent request traffic) :
    spent ≤ exchange.sentAt := by
  induction hops, spent, request, traffic using followInduction client network with
  | done hops spent request traffic reply heeded =>
      rw [exchangesFrom_of_done client network heeded] at member
      cases List.mem_singleton.mp member
      exact Nat.le_refl spent
  | exhausted spent request traffic later next heeded =>
      cases List.mem_singleton.mp member
      exact Nat.le_refl spent
  | onward hops spent request traffic later next heeded induction =>
      rw [exchangesFrom_of_onward client network heeded] at member
      rcases List.mem_cons.mp member with first | others
      · cases first
        exact Nat.le_refl spent
      · have behind := le_of_onward begun heeded
        exact Nat.le_trans behind.1 (induction behind.2 others)

theorem sentAt_le_follow_time {hops : Nat} {exchange : Exchange} (begun : spent ≤ client.timeout)
    (member : exchange ∈ client.exchangesFrom network hops spent request traffic) :
    exchange.sentAt ≤ ((client.follow network hops spent request).run traffic).1.time := by
  have first : spent ≤ ((client.follow network hops spent request).run traffic).1.time :=
    le_follow_time hops begun
  induction hops, spent, request, traffic using followInduction client network with
  | done hops spent request traffic reply heeded =>
      rw [exchangesFrom_of_done client network heeded] at member
      rw [List.mem_singleton.mp member]
      exact first
  | exhausted spent request traffic later next heeded =>
      rw [List.mem_singleton.mp member]
      exact first
  | onward hops spent request traffic later next heeded induction =>
      rw [exchangesFrom_of_onward client network heeded] at member
      rcases List.mem_cons.mp member with same | others
      · rw [same]
        exact first
      · have begunNext := (le_of_onward begun heeded).2
        rw [follow_of_onward client network heeded]
        exact induction begunNext others (le_follow_time hops begunNext)

/-- With less time the requests go out that would have been sent by then. -/
theorem exchangesFrom_within (hops : Nat) (begun : spent ≤ client.timeout)
    (inTime : spent ≤ limit) :
    (client.within limit).exchangesFrom network hops spent request traffic =
      (client.exchangesFrom network hops spent request traffic).filter
        (·.sentAt ≤ limit) := by
  induction hops, spent, request, traffic using followInduction client network with
  | done hops spent request traffic reply heeded =>
      have ends : ∃ reply, (client.within limit).heed spent request (network traffic request) =
          .done reply := by
        by_cases early : reply.time ≤ limit
        · exact ⟨reply, heed_within_of_le heeded early⟩
        · exact ⟨_, heed_within_of_lt heeded (Nat.not_le.mp early)⟩
      rcases ends with ⟨_, within⟩
      rw [exchangesFrom_of_done client network heeded, exchangesFrom_of_done _ network within,
        List.filter_cons, if_pos (decide_eq_true inTime), List.filter_nil]
  | exhausted spent request traffic later next heeded =>
      rw [exchangesFrom_of_onward client network heeded, List.filter_cons,
        if_pos (decide_eq_true inTime), List.filter_nil]
      rfl
  | onward hops spent request traffic later next heeded induction =>
      have begunNext := (le_of_onward begun heeded).2
      rw [exchangesFrom_of_onward client network heeded, List.filter_cons,
        if_pos (decide_eq_true inTime)]
      by_cases early : later ≤ limit
      · rw [exchangesFrom_of_onward _ network (heed_within_of_le heeded early)]
        exact congrArg _ (induction begunNext early)
      · have late := Nat.not_le.mp early
        rw [exchangesFrom_of_done _ network (heed_within_of_lt heeded late)]
        have none : (client.exchangesFrom network hops later next (request :: traffic)).filter
            (·.sentAt ≤ limit) = [] := by
          rw [List.filter_eq_nil_iff]
          intro exchange member
          have behind := le_sentAt begunNext member
          rw [decide_eq_true_eq]
          omega
        rw [none]

/-! ## Requests to written addresses -/

variable {method : Method} {address : String} {body : Option Value}

theorem request?_within (limit : Nat) :
    (client.within limit).request? method address body = client.request? method address body :=
  rfl

theorem send_time_le :
    ((client.send network method address body).run traffic).1.time ≤ client.timeout := by
  rw [send_run]
  cases client.request? method address body with
  | none => exact Nat.zero_le _
  | some request => exact follow_time_le _ (Nat.zero_le _)

/-- A request comes to what a client makes of the answer to the last one that it leads to. -/
theorem send_last {last : Exchange}
    (isLast : (client.exchanges network method address body traffic).getLast? = some last) :
    ((client.send network method address body).run traffic).1 =
      (client.heed last.sentAt last.request last.answer).reply := by
  rw [exchanges] at isLast
  rw [send_run]
  cases sent : client.request? method address body with
  | none =>
      rw [sent] at isLast
      cases isLast
  | some request =>
      rw [sent] at isLast
      rcases follow_last client.redirects 0 request traffic with ⟨known, isKnown, replied⟩
      cases isKnown.symm.trans isLast
      exact replied

theorem send_within_of_le
    (early : ((client.send network method address body).run traffic).1.time ≤ limit) :
    ((client.within limit).send network method address body).run traffic =
      (client.send network method address body).run traffic := by
  rw [send_run] at early ⊢
  rw [send_run, request?_within]
  cases sent : client.request? method address body with
  | none => rfl
  | some request =>
      rw [sent] at early
      exact follow_within_of_le _ (Nat.zero_le _) early

theorem send_within_of_lt
    (late : limit < ((client.send network method address body).run traffic).1.time) :
    (((client.within limit).send network method address body).run traffic).1 =
      givenUp limit := by
  rw [send_run] at late ⊢
  rw [request?_within]
  cases sent : client.request? method address body with
  | none =>
      rw [sent] at late
      exact absurd late (Nat.not_lt_zero limit)
  | some request =>
      rw [sent] at late
      exact follow_within_of_lt _ late

theorem sentAt_le_send_time {exchange : Exchange}
    (member : exchange ∈ client.exchanges network method address body traffic) :
    exchange.sentAt ≤ ((client.send network method address body).run traffic).1.time := by
  rw [exchanges] at member
  rw [send_run]
  cases sent : client.request? method address body with
  | none =>
      rw [sent] at member
      cases member
  | some request =>
      rw [sent] at member
      exact sentAt_le_follow_time (Nat.zero_le _) member

theorem exchanges_within (limit : Nat) :
    (client.within limit).exchanges network method address body traffic =
      (client.exchanges network method address body traffic).filter (·.sentAt ≤ limit) := by
  rw [exchanges, exchanges, request?_within]
  cases client.request? method address body with
  | none => rfl
  | some request => exact exchangesFrom_within _ (Nat.zero_le _) (Nat.zero_le _)

/-! ## Bodies -/

theorem read_time {reply : Reply} {response : Response} (result : reply.result = .ok response) :
    (client.read reply).time = min client.timeout (reply.time + response.bodyTime) := by
  rw [read, result]
  dsimp only
  split
  · rename_i late
    exact (Nat.min_eq_left (Nat.le_of_lt late)).symm
  · rename_i inTime
    exact (Nat.min_eq_right (Nat.not_lt.mp inTime)).symm

theorem le_read_time {reply : Reply} (begun : reply.time ≤ client.timeout) :
    reply.time ≤ (client.read reply).time := by
  rw [read]
  split
  · exact Nat.le_refl _
  · dsimp only
    split
    · exact begun
    · exact Nat.le_add_right _ _

theorem read_within_of_le {reply : Reply} (early : (client.read reply).time ≤ limit) :
    (client.within limit).read reply = client.read reply := by
  rw [read] at early ⊢
  rw [read, timeout_within]
  cases result : reply.result with
  | error failure => rfl
  | ok response =>
      rw [result] at early
      dsimp only at early ⊢
      by_cases late : client.timeout < reply.time + response.bodyTime
      · rw [if_pos late] at early ⊢
        have long : client.timeout ≤ limit := early
        rw [Nat.min_eq_left long, if_pos late]
      · rw [if_neg late] at early ⊢
        have inTime : reply.time + response.bodyTime ≤ limit := early
        rw [if_neg (by omega)]

/-- A body that does not come within the limit is not read. -/
theorem read_within_of_lt {reply : Reply} (known : reply.time ≤ limit)
    (late : limit < (client.read reply).time) :
    ∃ response : Response,
      (client.within limit).read reply = ⟨limit, .ok { response with body := none }⟩ := by
  rw [read] at late
  rw [read, timeout_within]
  cases result : reply.result with
  | error failure =>
      rw [result] at late
      exact absurd known (Nat.not_le.mpr late)
  | ok response =>
      rw [result] at late
      dsimp only at late ⊢
      have short : limit < client.timeout ∧ limit < reply.time + response.bodyTime := by
        split at late
        · have bound : limit < client.timeout := late
          omega
        · have bound : limit < reply.time + response.bodyTime := late
          omega
      rw [Nat.min_eq_right (Nat.le_of_lt short.1), if_pos short.2]
      exact ⟨response, rfl⟩

end Client

end FaultDrill.Http
