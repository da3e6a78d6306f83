import FaultDrill.Proofs.ControlPlane.Settlement
import FaultDrill.Proofs.ControlPlane.Telling
import FaultDrill.Proofs.Http.Shortening
import FaultDrill.Proofs.Report.Record
import FaultDrill.Proofs.Steps

/-!
What a command comes to, by the answer to its request. A command that takes a request
sends it once, and never again; whether it was carried out is then up to the status of
the response, and for an injection to its body.
-/

namespace FaultDrill

namespace Http.Client

variable (client : Client)

/-- The response of an answer that is there before the client gives up, and when. -/
def arrival? : Answer → Option (Nat × Response)
  | .response time response => if time ≤ client.timeout then some (time, response) else none
  | _ => none

/-- The body of a response, if all of it comes before the client gives up. -/
def completeBody? (arrived : Nat × Response) : Option (List UInt8) :=
  if arrived.1 + arrived.2.bodyTime ≤ client.timeout then arrived.2.body else none

variable {client}

/-- An answer that leads nowhere else is what the reply is about. -/
theorem heed_of_not_leadsOn {request : Request} {answer : Answer}
    (ends : ¬ LeadsOn request answer) :
    ∃ reply, client.heed 0 request answer = .done reply ∧
      match client.arrival? answer with
      | some (time, response) => reply = ⟨time, .ok response⟩
      | none => ∃ failure, reply.result = .error failure := by
  cases answer with
  | refused time =>
      rw [heed]
      split
      · exact ⟨_, rfl, .timedOut, rfl⟩
      · exact ⟨_, rfl, .disconnected, rfl⟩
  | closed time =>
      rw [heed]
      split
      · exact ⟨_, rfl, .timedOut, rfl⟩
      · exact ⟨_, rfl, .disconnected, rfl⟩
  | silence => exact ⟨_, rfl, .timedOut, rfl⟩
  | response time response =>
      refine ⟨_, client.heed_direct 0 time (redirected?_eq_none.mpr ends), ?_⟩
      rw [arrival?, replyTo, Nat.zero_add]
      by_cases timely : time ≤ client.timeout
      · rw [if_pos timely, if_neg (Nat.not_lt.mpr timely)]
      · rw [if_neg timely, if_pos (Nat.not_le.mp timely)]
        exact ⟨.timedOut, rfl⟩

theorem read_of_arrival (time : Nat) (response : Response) :
    (client.read ⟨time, .ok response⟩).result =
      .ok { response with body := client.completeBody? (time, response) } := by
  rw [read, completeBody?]
  dsimp only
  by_cases timely : time + response.bodyTime ≤ client.timeout
  · rw [if_pos timely, if_neg (Nat.not_lt.mpr timely)]
  · rw [if_neg timely, if_pos (Nat.not_le.mp timely)]

end Http.Client

namespace Command

variable {client : Http.Client} {command : Command}

/-! ## Verdicts -/

/-- The statuses that say that a command was carried out. -/
def IsCarriedOut (command : Command) (status : UInt16) : Prop :=
  (200 ≤ status.toNat ∧ status.toNat ≤ 299) ∨
    (status.toNat = 409 ∧ ∃ route, command = .configure route)

/-- What a complete body tells as the name of a toxic. -/
def Tells (client : Http.Client) (arrived : Nat × Http.Response) (name : String) : Prop :=
  ∃ body value, client.completeBody? arrived = some body ∧
    Json.parseBytes body = some value ∧ Names name value

/-- What a command comes to by the answer to its request. -/
inductive Verdict (client : Http.Client) (command : Command) (answer : Http.Answer) :
    Except CommandError (Option String) → Prop
  | lost (failure : Http.Client.Failure) (nothing : client.arrival? answer = none) :
      Verdict client command answer (.error (.noResponse command.operation failure))
  | rejected (arrived : Nat × Http.Response) (arrives : client.arrival? answer = some arrived)
      (refused : ¬ command.IsCarriedOut arrived.2.status) :
      Verdict client command answer (.error (.rejected command.operation arrived.2.status
        (((client.completeBody? arrived).map Text.ofBytes).getD "")))
  | done (arrived : Nat × Http.Response) (arrives : client.arrival? answer = some arrived)
      (carriedOut : command.IsCarriedOut arrived.2.status)
      (plain : ∀ route fault, command ≠ .inject route fault) :
      Verdict client command answer (.ok none)
  | injected (arrived : Nat × Http.Response) (arrives : client.arrival? answer = some arrived)
      (carriedOut : command.IsCarriedOut arrived.2.status)
      (injection : ∃ route fault, command = .inject route fault) (name : String)
      (told : Tells client arrived name) :
      Verdict client command answer (.ok (some name))
  | unreadable (arrived : Nat × Http.Response) (arrives : client.arrival? answer = some arrived)
      (carriedOut : command.IsCarriedOut arrived.2.status)
      (injection : ∃ route fault, command = .inject route fault)
      (untold : ∀ name, ¬ Tells client arrived name) :
      Verdict client command answer (.error (.unreadable command.operation))

/-- An answer by which a command succeeds. -/
def Succeeds (client : Http.Client) (command : Command) (answer : Http.Answer) : Prop :=
  ∃ arrived, client.arrival? answer = some arrived ∧ command.IsCarriedOut arrived.2.status ∧
    ((∃ route fault, command = .inject route fault) → ∃ name, Tells client arrived name)

theorem Verdict.isOk_iff {answer : Http.Answer} {result : Except CommandError (Option String)}
    (verdict : Verdict client command answer result) :
    (∃ told, result = .ok told) ↔ Succeeds client command answer := by
  constructor
  · rintro ⟨told, isOk⟩
    cases verdict with
    | done arrived arrives carriedOut plain =>
        exact ⟨arrived, arrives, carriedOut, fun ⟨route, fault, same⟩ => absurd same (plain _ _)⟩
    | injected arrived arrives carriedOut injection name told =>
        exact ⟨arrived, arrives, carriedOut, fun _ => ⟨name, told⟩⟩
    | _ => cases isOk
  · rintro ⟨known, knownArrives, carriedOut, tells⟩
    cases verdict with
    | lost failure nothing => cases nothing.symm.trans knownArrives
    | rejected arrived arrives refused =>
        cases arrives.symm.trans knownArrives
        exact absurd carriedOut refused
    | unreadable arrived arrives _ injection untold =>
        cases arrives.symm.trans knownArrives
        rcases tells injection with ⟨name, told⟩
        exact absurd told (untold name)
    | done => exact ⟨_, rfl⟩
    | injected => exact ⟨_, rfl⟩

theorem accepts_iff {status : UInt16} :
    command.accepts status = true ↔ command.IsCarriedOut status := by
  have success : isSuccess status = true ↔ 200 ≤ status.toNat ∧ status.toNat ≤ 299 := by
    have low : (200 : UInt16) ≤ status ↔ 200 ≤ status.toNat := UInt16.le_iff_toNat_le
    have high : status < (300 : UInt16) ↔ status.toNat < 300 := UInt16.lt_iff_toNat_lt
    rw [isSuccess, Bool.and_eq_true, decide_eq_true_eq, decide_eq_true_eq, low, high]
    omega
  have conflict : status = 409 ↔ status.toNat = 409 := UInt16.toNat_inj.symm
  cases command <;> simp [accepts, IsCarriedOut, success, conflict, or_comm]

theorem tells_iff {arrived : Nat × Http.Response} {name : String} :
    Tells client arrived name ↔ (client.completeBody? arrived).bind toxicName? = some name := by
  simp only [Option.bind_eq_some_iff, toxicName?_eq_some, Tells, exists_and_left]

/-- A response that has arrived is judged, with as much of its body as matters. -/
theorem settle_of_arrival (time : Nat) (response : Http.Response) :
    (command.settle client ⟨time, .ok response⟩).2 =
      command.conclude (if command.reads response.status then
        { response with body := client.completeBody? (time, response) } else response) := by
  have heard : (Http.Client.Reply.mk time (.ok response)).status?.any command.reads =
      command.reads response.status := rfl
  rw [settle, heard]
  cases command.reads response.status with
  | false => rfl
  | true =>
      simp only [if_true, client.read_of_arrival]

theorem settle_of_loss {reply : Http.Client.Reply} {failure : Http.Client.Failure}
    (failed : reply.result = .error failure) :
    command.settle client reply =
      (reply.time, .error (.noResponse command.operation failure)) := by
  have unheard : reply.status?.any command.reads = false := by
    rw [Http.Client.Reply.status?, failed]
    rfl
  rw [settle, unheard]
  simp only [Bool.false_eq_true, if_false, failed]

theorem verdict_of_arrival {answer : Http.Answer} {arrived : Nat × Http.Response}
    (arrives : client.arrival? answer = some arrived) :
    Verdict client command answer (command.settle client ⟨arrived.1, .ok arrived.2⟩).2 := by
  rw [settle_of_arrival]
  by_cases accepted : command.accepts arrived.2.status = true
  · have carriedOut := accepts_iff.mp accepted
    have judged (response : Http.Response) (same : response.status = arrived.2.status) :
        command.accepts response.status = true := same ▸ accepted
    cases command with
    | inject route fault =>
        have reads : (Command.inject route fault).reads arrived.2.status = true := by
          rw [reads, Bool.or_true]
        unfold conclude
        rw [if_pos reads, if_pos (judged _ rfl)]
        dsimp only
        cases told : (client.completeBody? arrived).bind toxicName? with
        | some name =>
            exact .injected arrived arrives carriedOut ⟨route, fault, rfl⟩ name (tells_iff.mpr told)
        | none =>
            refine .unreadable arrived arrives carriedOut ⟨route, fault, rfl⟩ fun name tells => ?_
            cases told.symm.trans (tells_iff.mp tells)
    | _ =>
        unfold conclude
        rw [if_pos (judged _ (by split <;> rfl))]
        exact .done arrived arrives carriedOut fun _ _ same => by cases same
  · have reads : command.reads arrived.2.status = true := by
      simp [reads, accepted]
    unfold conclude
    rw [if_pos reads, if_neg accepted]
    exact .rejected arrived arrives (mt accepts_iff.mpr accepted)

/-! ## Bodies -/

theorem toxicValue_injective {left right : Toxic} (same : toxicValue left = toxicValue right) :
    left = right := by
  cases left <;> cases right <;>
    simp_all [toxicValue, Value.ofFields, Toxic.attributes, Toxic.kind]

theorem hasText_toxicValue (toxic : Toxic) : Json.HasText Json.deepest (toxicValue toxic) := by
  refine hasText_ofFields ?_
  intro field member
  rcases List.mem_cons.mp member with attributes | member
  · rw [attributes]
    refine hasText_ofFields fun field member => ?_
    rcases List.mem_map.mp member with ⟨pair, -, equal⟩
    rw [← equal]
    exact .natural _
  · rw [List.mem_singleton.mp member]
    exact .text _

/-- The body of an injection is read back as the toxic. -/
theorem compact_toxicValue_injective {left right : Toxic}
    (same : Json.compact (toxicValue left) = Json.compact (toxicValue right)) : left = right := by
  have readsBack (toxic : Toxic) : Json.parse (Json.compact (toxicValue toxic)) = some _ :=
    Json.parse_render (hasText_toxicValue toxic) .compact
  have values := (readsBack left).symm.trans ((congrArg Json.parse same).trans (readsBack right))
  exact toxicValue_injective (Option.some.inj values)

end Command

theorem Fault.toxic?_injective {left right : Fault} {toxic : Toxic}
    (isLeft : left.toxic? = some toxic) (isRight : right.toxic? = some toxic) : left = right := by
  cases left <;> cases right <;> cases isLeft <;> cases isRight <;> rfl

namespace Command

/-! ## Commands -/

theorem Asks.exists_toxic {route path : String} {fault : Fault} {method : Http.Method}
    {body : Option Value} (asks : Asks (.inject route fault) method path body) :
    ∃ toxic, fault.toxic? = some toxic ∧ body = some (toxicValue toxic) := by
  cases asks with
  | latency route delay jitter => exact ⟨.latency delay jitter, rfl, rfl⟩
  | bandwidth route rate => exact ⟨.bandwidth rate, rfl, rfl⟩

section Answered

variable {network : Http.Network} {address path : String} {method : Http.Method}
  {body : Option Value} {url : Url} {traffic : Http.Traffic}

/-- A command is over with the answer to its request, unless that leads elsewhere. -/
theorem perform_of_done (asks : Asks command method path body)
    (parsed : Url.parse (Url.withPath address path) = .ok url)
    (reachable : url.scheme = "http" ∨ url.scheme = "https") {reply : Http.Client.Reply}
    (heeded : client.heed 0 (client.requestTo method url body)
      (network traffic (client.requestTo method url body)) = .done reply) :
    (command.perform client network address).run traffic =
      (command.settle client reply,
        if (network traffic (client.requestTo method url body)).reached then
          client.requestTo method url body :: traffic
        else traffic) := by
  have sent := client.request?_of_parse parsed (Http.Client.isReachable_iff.mpr reachable) method
    body
  rw [perform_of_order client network address asks.order?_eq, client.send_run, sent]
  dsimp only
  rw [client.follow_of_done network heeded]
  rfl

/-- What comes of the reply about an answer. -/
theorem verdict_of_heed {request : Http.Request} {answer : Http.Answer}
    {reply : Http.Client.Reply} (heeded : client.heed 0 request answer = .done reply)
    (about : match client.arrival? answer with
      | some (time, response) => reply = ⟨time, .ok response⟩
      | none => ∃ failure, reply.result = .error failure) :
    Verdict client command answer (command.settle client reply).2 ∧
      (client.arrival? answer = none →
        (command.settle client reply).1 = client.knownAt ⟨0, request, answer⟩) := by
  cases arrives : client.arrival? answer with
  | some arrived =>
      rw [arrives] at about
      rw [about]
      exact ⟨verdict_of_arrival arrives, nofun⟩
  | none =>
      rw [arrives] at about
      rcases about with ⟨failure, failed⟩
      have known := client.heed_time 0 request answer
      rw [heeded] at known
      rw [settle_of_loss failed]
      exact ⟨.lost failure arrives, fun _ => known⟩

end Answered

/-- A command that has nothing to do, or a fault that is no toxic, sends nothing. Any other
command sends what it asks for once, and comes to what the answer says, unless the answer
leads elsewhere: nothing else matters that the network would answer, and nothing else is
waited for. What an injection sends tells the fault. -/
theorem perform_by_answer (client : Http.Client) (network : Http.Network) (address : String)
    (command : Command) (traffic : Http.Traffic) :
    let ran := (command.perform client network address).run traffic
    (∀ route, command = .remove route none → ran = ((0, .ok none), traffic)) ∧
      (∀ route, command = .inject route .disable →
        ran = ((0, .error (.notAToxic .disable)), traffic)) ∧
      ((∃ method path body, Asks command method path body) ∨
        (∃ route, command = .remove route none) ∨ ∃ route, command = .inject route .disable) ∧
      (∀ method path body url, Asks command method path body →
        Url.parse (Url.withPath address path) = .ok url →
        url.scheme = "http" ∨ url.scheme = "https" →
        let request := client.requestTo method url body
        let answer := network traffic request
        ¬ Http.Client.LeadsOn request answer →
          command.exchanges client network address traffic = [⟨0, request, answer⟩] ∧
          ran.2 = (if answer.reached then request :: traffic else traffic) ∧
          (∀ other : Http.Network, other traffic request = answer →
            (command.perform client other address).run traffic = ran) ∧
          (client.arrival? answer = none → ran.1.1 = client.knownAt ⟨0, request, answer⟩) ∧
          Verdict client command answer ran.1.2 ∧
          ((∃ told, ran.1.2 = .ok told) ↔ Succeeds client command answer)) ∧
      ∀ route other fault otherFault method otherMethod path otherPath body otherBody,
        Asks (.inject route fault) method path body →
        Asks (.inject other otherFault) otherMethod otherPath otherBody →
        body.map Json.compact = otherBody.map Json.compact → fault = otherFault := by
  intro ran
  refine ⟨?_, ?_, asks_or_nothing command, ?_, ?_⟩
  · intro route same
    subst same
    rfl
  · intro route same
    subst same
    rfl
  · intro method path body url asks parsed reachable request answer ends
    rcases client.heed_of_not_leadsOn ends with ⟨reply, heeded, about⟩
    have performed (other : Http.Network) (same : other traffic request = answer) :
        (command.perform client other address).run traffic =
          (command.settle client reply, if answer.reached then request :: traffic else traffic) :=
      same ▸ perform_of_done asks parsed reachable (same ▸ heeded)
    have exchanged : command.exchanges client network address traffic = [⟨0, request, answer⟩] := by
      rw [exchanges, asks.order?_eq]
      exact (client.exchanges_startsWith network parsed reachable method body traffic).only ends
    have here : ran = _ := performed network rfl
    rcases verdict_of_heed heeded about with ⟨verdict, lost⟩
    rw [here]
    exact ⟨exchanged, rfl, performed, lost, verdict, verdict.isOk_iff⟩
  · intro route other fault otherFault method otherMethod path otherPath body otherBody asks
      otherAsks sameBody
    rcases asks.exists_toxic with ⟨toxic, isToxic, rfl⟩
    rcases otherAsks.exists_toxic with ⟨otherToxic, isOther, rfl⟩
    have equal := compact_toxicValue_injective (Option.some.inj sameBody)
    rw [equal] at isToxic
    exact Fault.toxic?_injective isToxic isOther

/-- A route that is there already need not be made. -/
theorem perform_by_answer_conflict :
    let client : Http.Client := ⟨30000000000, 5, []⟩
    let answer : Http.Answer := .response 1000000 ⟨409, none, none, 0⟩
    let ran := ((Command.configure {}).perform client (fun _ _ => answer)
      "http://toxiproxy:8474/").run []
    (∃ told, ran.1.2 = .ok told) ∧
      ran.2.map (fun request => (request.method, request.url.path, request.body)) =
        [(.post, "/proxies", some ("\x7b\"enabled\":true,\"listen\":\"0.0.0.0:6379\"," ++
          "\"name\":\"redis_proxy\",\"upstream\":\"redis:6379\"\x7d"))] := by
  intro client answer ran
  rcases perform_by_answer client (fun _ _ => answer) "http://toxiproxy:8474/" (.configure {}) []
    with ⟨-, -, -, byAnswer, -⟩
  have parsed : Url.parse (Url.withPath "http://toxiproxy:8474/" "/proxies") =
      .ok ⟨"http", some (.name "toxiproxy"), some 8474, "/proxies", none⟩ :=
    toOption_eq_some.mp (by decide +kernel)
  rcases byAnswer _ _ _ _ (.configure {}) parsed (.inl rfl) (by simp [Http.Client.LeadsOn, answer])
    with ⟨-, sent, -, -, -, succeeds⟩
  constructor
  · apply succeeds.mpr
    refine ⟨(1000000, ⟨409, none, none, 0⟩), rfl, .inr ⟨rfl, {}, rfl⟩, ?_⟩
    rintro ⟨route, fault, same⟩
    cases same
  · rw [sent]
    decide +kernel

end Command

end FaultDrill
