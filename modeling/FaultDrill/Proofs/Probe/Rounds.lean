import FaultDrill.Probe
import FaultDrill.Proofs.Drill.Waiting
import FaultDrill.Proofs.Http.Shortening
import FaultDrill.Proofs.Json.Telling
import FaultDrill.Proofs.Steps

/-!
How long a wait for the target takes. Polls follow one another, each an interval behind the
end of the one before, whatever is answered to them. A wait goes through them until one is
ready, or until its deadline.
-/

namespace FaultDrill.Probe

/-! ## Single polls -/

/-- What a poll finds by the reply to it. The body matters only if the status is right. -/
def Poll.ofReply (client : Http.Client) (reply : Http.Client.Reply) : Poll :=
  let whole := if reply.status? = some 200 then client.read reply else reply
  ⟨whole.time, whole.result.toOption.any isReady⟩

/-- A poll that only its client gives up. -/
def check (probe : Probe) (network : Http.Network) : StateM Http.Traffic Poll :=
  probe.poll network probe.client.timeout

/-- What the polls of a probe exchange with a network. -/
def exchanges (probe : Probe) (network : Http.Network) (traffic : Http.Traffic) :
    List Http.Exchange :=
  probe.client.exchanges network .get probe.address none traffic

variable {probe : Probe} {network : Http.Network} {traffic : Http.Traffic} {limit : Nat}

theorem poll_run (probe : Probe) (network : Http.Network) (limit : Nat) (traffic : Http.Traffic) :
    let client := probe.client.within limit
    let sent := (client.send network .get probe.address none).run traffic
    (probe.poll network limit).run traffic = (.ofReply client sent.1, sent.2) := by
  intro client sent
  rw [poll, StateT.run_bind]
  simp only [bind, Poll.ofReply, sent]
  split <;> rename_i result
  · simp only [client] at result ⊢
    rw [result]
    rfl
  · simp only [client] at result ⊢
    rw [result]
    rfl

theorem check_run (probe : Probe) (network : Http.Network) (traffic : Http.Traffic) :
    let sent := (probe.client.send network .get probe.address none).run traffic
    (probe.check network).run traffic = (.ofReply probe.client sent.1, sent.2) := by
  have same : probe.client.within probe.client.timeout = probe.client := by
    rw [Http.Client.within, Nat.min_self]
  have ran := probe.poll_run network probe.client.timeout traffic
  rwa [same] at ran

theorem Poll.ofReply_givenUp (client : Http.Client) (time : Nat) :
    Poll.ofReply client (Http.Client.givenUp time) = ⟨time, false⟩ := rfl

theorem Poll.le_ofReply_time {client : Http.Client} {reply : Http.Client.Reply}
    (begun : reply.time ≤ client.timeout) : reply.time ≤ (ofReply client reply).time := by
  rw [ofReply]
  dsimp only
  split
  · exact Http.Client.le_read_time begun
  · exact Nat.le_refl _

theorem Poll.ofReply_within_of_le {client : Http.Client} {reply : Http.Client.Reply}
    (early : (ofReply client reply).time ≤ limit) :
    ofReply (client.within limit) reply = ofReply client reply := by
  rw [ofReply] at early ⊢
  rw [ofReply]
  by_cases read : reply.status? = some 200
  · rw [if_pos read] at early ⊢
    rw [if_pos read, Http.Client.read_within_of_le early]
  · rw [if_neg read, if_neg read]

theorem Poll.ofReply_within_of_lt {client : Http.Client} {reply : Http.Client.Reply}
    (known : reply.time ≤ limit) (late : limit < (ofReply client reply).time) :
    ofReply (client.within limit) reply = ⟨limit, false⟩ := by
  rw [ofReply] at late ⊢
  by_cases read : reply.status? = some 200
  · rw [if_pos read] at late ⊢
    rcases Http.Client.read_within_of_lt known late with ⟨response, cut⟩
    rw [cut]
    simp [isReady, Except.toOption]
  · rw [if_neg read] at late
    exact absurd known (Nat.not_le.mpr late)

/-- A poll that is over within the limit is as it would be without one. -/
theorem poll_of_le (early : ((probe.check network).run traffic).1.time ≤ limit) :
    (probe.poll network limit).run traffic = (probe.check network).run traffic := by
  rw [check_run] at early ⊢
  have behind : ((probe.client.send network .get probe.address none).run traffic).1.time ≤ _ :=
    Poll.le_ofReply_time Http.Client.send_time_le
  rw [poll_run, Http.Client.send_within_of_le (Nat.le_trans behind early),
    Poll.ofReply_within_of_le early]

theorem poll_of_lt (late : limit < ((probe.check network).run traffic).1.time) :
    ((probe.poll network limit).run traffic).1 = ⟨limit, false⟩ := by
  rw [check_run] at late
  rw [poll_run]
  dsimp only at late ⊢
  let sent := ((probe.client.send network .get probe.address none).run traffic).1
  by_cases known : sent.time ≤ limit
  · rw [Http.Client.send_within_of_le known]
    exact Poll.ofReply_within_of_lt known late
  · rw [Http.Client.send_within_of_lt (Nat.not_le.mp known)]
    exact Poll.ofReply_givenUp _ limit

/-- What a poll sends within the limit. -/
theorem poll_sends (limit : Nat) :
    ((probe.poll network limit).run traffic).2 =
      ((((probe.exchanges network traffic).filter (·.sentAt ≤ limit)).filter
        (·.answer.reached)).map Http.Exchange.request).reverse ++ traffic := by
  rw [poll_traffic, Http.Client.send_traffic, Http.Client.exchanges_within, exchanges]

theorem sentAt_le_check_time {exchange : Http.Exchange}
    (member : exchange ∈ probe.exchanges network traffic) :
    exchange.sentAt ≤ ((probe.check network).run traffic).1.time := by
  rw [check_run]
  exact Nat.le_trans (Http.Client.sentAt_le_send_time member)
    (Poll.le_ofReply_time Http.Client.send_time_le)

theorem check_sends :
    ((probe.check network).run traffic).2 =
      (((probe.exchanges network traffic).filter (·.answer.reached)).map
        Http.Exchange.request).reverse ++ traffic := by
  rw [check_run]
  exact Http.Client.send_traffic _ _ _ _ _ _

/-! ## Ready targets -/

/-- An exchange by which the target says that it is up: the status of the response is 200, and
all of its body is there some nanoseconds after the start of the poll, before the client gives
up, and tells the status `UP`. -/
inductive SaysUp (client : Http.Client) (time : Nat) : Http.Exchange → Prop
  | response {sentAt head : Nat} {request : Http.Request} {response : Http.Response}
      {body : List UInt8} {value : Value}
      (status : response.status = 200)
      (complete : response.body = some body)
      (decodes : Json.parseBytes body = some value)
      (up : value.Tells "status" "UP")
      (takes : sentAt + head + response.bodyTime = time)
      (inTime : time ≤ client.timeout) :
      SaysUp client time ⟨sentAt, request, .response head response⟩

theorem isReady_iff {response : Http.Response} :
    isReady response = true ↔ response.status = 200 ∧ ∃ body value,
      response.body = some body ∧ Json.parseBytes body = some value ∧
        value.Tells "status" "UP" := by
  have told (body : List UInt8) : status? body = some "UP" ↔
      ∃ value, Json.parseBytes body = some value ∧ value.Tells "status" "UP" :=
    Json.told?_eq_some
  rw [isReady, Bool.and_eq_true, decide_eq_true_eq, beq_iff_eq, Option.bind_eq_some_iff]
  simp only [told, exists_and_left]

theorem Poll.ofReply_eq_ready {client : Http.Client} {reply : Http.Client.Reply} {time : Nat} :
    ofReply client reply = ⟨time, true⟩ ↔ ∃ known response, reply = ⟨known, .ok response⟩ ∧
      isReady response = true ∧ known + response.bodyTime = time ∧ time ≤ client.timeout := by
  constructor
  · intro found
    rcases reply with ⟨known, failure | response⟩
    · cases found
    · by_cases status : response.status = 200
      · have read : (Http.Client.Reply.mk known (.ok response)).status? = some 200 :=
          congrArg some status
        rw [ofReply, if_pos read, Http.Client.read] at found
        dsimp only at found
        by_cases late : client.timeout < known + response.bodyTime
        · rw [if_pos late] at found
          simp [isReady, Except.toOption] at found
        · rw [if_neg late] at found
          rcases Poll.mk.inj found with ⟨takes, ready⟩
          exact ⟨known, response, rfl, ready, takes, takes ▸ Nat.not_lt.mp late⟩
      · have unread : (Http.Client.Reply.mk known (.ok response)).status? ≠ some 200 :=
          fun same => status (Option.some.inj same)
        rw [ofReply, if_neg unread] at found
        exact absurd (isReady_iff.mp (Poll.mk.inj found).2).1 status
  · rintro ⟨known, response, rfl, ready, takes, inTime⟩
    have read : (Http.Client.Reply.mk known (.ok response)).status? = some 200 :=
      congrArg some (isReady_iff.mp ready).1
    rw [ofReply, if_pos read, Http.Client.read]
    dsimp only
    rw [if_neg (by omega), takes]
    exact congrArg (Poll.mk time) ready

/-- A response that says that all is well leads nowhere else. -/
theorem not_leadsOn {request : Http.Request} {time : Nat} {response : Http.Response}
    (status : response.status = 200) :
    ¬ Http.Client.LeadsOn request (.response time response) := by
  rintro ⟨listed, -⟩
  rw [status] at listed
  exact absurd listed (by decide)

/-- A poll finds the target ready exactly if it is told so. -/
theorem check_eq_ready {time : Nat} :
    ((probe.check network).run traffic).1 = ⟨time, true⟩ ↔
      ∃ exchange ∈ probe.exchanges network traffic, SaysUp probe.client time exchange := by
  rw [check_run, Poll.ofReply_eq_ready]
  constructor
  · rintro ⟨known, response, replied, ready, takes, inTime⟩
    rcases (probe.client.send_eq_ok network).mp replied with
      ⟨⟨sentAt, request, answer⟩, member, head, answered, -, behind, -⟩
    rcases isReady_iff.mp ready with ⟨status, body, value, complete, decodes, up⟩
    dsimp only at answered behind
    subst answered
    exact ⟨_, member, .response status complete decodes up (behind ▸ takes) inTime⟩
  · rintro ⟨exchange, member, told⟩
    cases told with
    | @response sentAt head request response body value status complete decodes up takes inTime =>
        have ready : isReady response = true :=
          isReady_iff.mpr ⟨status, body, value, complete, decodes, up⟩
        have known : sentAt + head ≤ probe.client.timeout := by omega
        refine ⟨sentAt + head, response, ?_, ready, takes, inTime⟩
        exact (probe.client.send_eq_ok network).mpr
          ⟨_, member, head, rfl, not_leadsOn status, rfl, known⟩

/-! ## How long polls take -/

/-- How long the body of a response is waited for. It matters only if the status is right. -/
def bodyTime : Http.Answer → Nat
  | .response _ response => if response.status = 200 then response.bodyTime else 0
  | _ => 0

/-- How long a poll takes that exchanges this: until something is known of the last request, and
then until the body has come, or until the client gives up. -/
def lasting (client : Http.Client) (exchanges : List Http.Exchange) : Nat :=
  match exchanges.getLast? with
  | none => 0
  | some last => min client.timeout (client.knownAt last + bodyTime last.answer)

theorem bodyTime_of_result {client : Http.Client} {last : Http.Exchange}
    {response : Http.Response} (status : response.status = 200)
    (result : (client.heed last.sentAt last.request last.answer).reply.result = .ok response) :
    bodyTime last.answer = response.bodyTime := by
  cases heeded : client.heed last.sentAt last.request last.answer with
  | done reply =>
      rw [heeded] at result
      have done : client.heed last.sentAt last.request last.answer =
          .done ⟨reply.time, .ok response⟩ := heeded.trans (congrArg _ (by rw [← result]; rfl))
      rcases client.answer_of_done done with ⟨head, answered, -⟩
      rw [answered, bodyTime, if_pos status]
  | onward later next =>
      rw [heeded] at result
      cases result

/-- A body that is not waited for has no part in the time, or has come too late. -/
theorem knownAt_of_unread {client : Http.Client} {last : Http.Exchange}
    (unread : (client.heed last.sentAt last.request last.answer).reply.status? ≠ some 200) :
    bodyTime last.answer = 0 ∨ client.knownAt last = client.timeout := by
  rcases last with ⟨sentAt, request, answer⟩
  cases answer with
  | response head response =>
      by_cases status : response.status = 200
      · have ends : ¬ Http.Client.LeadsOn request (.response head response) := not_leadsOn status
        have direct := Http.Client.redirected?_eq_none.mpr ends
        rw [client.heed_direct sentAt head direct, Http.Client.replyTo] at unread
        by_cases late : client.timeout < sentAt + head
        · exact .inr (Nat.min_eq_left (Nat.le_of_lt late))
        · rw [if_neg late] at unread
          exact absurd (congrArg some status) unread
      · exact .inl (if_neg status)
  | _ => exact .inl rfl

theorem check_time :
    ((probe.check network).run traffic).1.time =
      lasting probe.client (probe.exchanges network traffic) := by
  rw [check_run, lasting]
  cases isLast : (probe.exchanges network traffic).getLast? with
  | none =>
      have nothing := probe.client.exchanges_eq_nil network (List.getLast?_eq_none_iff.mp isLast)
      rw [Http.Client.send_run, nothing]
      rfl
  | some last =>
      rw [Http.Client.send_last isLast]
      have known : (probe.client.heed last.sentAt last.request last.answer).reply.time =
          probe.client.knownAt last :=
        (Http.Client.Step.reply_time _).trans (probe.client.heed_time _ _ _)
      have bound := probe.client.knownAt_le last
      rw [Poll.ofReply]
      dsimp only
      by_cases read : (probe.client.heed last.sentAt last.request last.answer).reply.status? =
          some 200
      · rcases Option.map_eq_some_iff.mp read with ⟨response, result, status⟩
        rw [if_pos read, Http.Client.read_time (toOption_eq_some.mp result), known,
          bodyTime_of_result status (toOption_eq_some.mp result)]
      · rw [if_neg read, known]
        rcases knownAt_of_unread read with none | late <;> omega

/-! ## Polls one after another -/

/-- A poll in its place among others. -/
structure Round where
  start : Nat
  /-- What it exchanges with the network, as long as its client does not give up. -/
  exchanges : List Http.Exchange
  found : Poll

namespace Round

variable {round : Round} {deadline : Nat}

def stop (round : Round) : Nat := round.start + round.found.time

/-- The target is found ready before a deadline. -/
def IsReadyBy (deadline : Nat) (round : Round) : Prop :=
  round.found.ready = true ∧ round.stop < deadline

instance : Decidable (round.IsReadyBy deadline) := inferInstanceAs (Decidable (_ ∧ _))

/-- It is over by a deadline, and the wait goes on. -/
structure IsPassed (deadline : Nat) (round : Round) : Prop where
  begun : round.start < deadline
  finished : round.stop ≤ deadline
  unready : ¬ round.IsReadyBy deadline

/-- The requests that are sent until a deadline and reach a server. -/
def sentBy (deadline : Nat) (round : Round) : List Http.Request :=
  ((round.exchanges.filter fun exchange => round.start + exchange.sentAt ≤ deadline).filter
    (·.answer.reached)).map Http.Exchange.request

theorem start_le_stop (round : Round) : round.start ≤ round.stop := Nat.le_add_right _ _

theorem not_isReadyBy_of_le (late : deadline ≤ round.stop) : ¬ round.IsReadyBy deadline :=
  fun ready => absurd ready.2 (Nat.not_lt.mpr late)

end Round

/-- When the poll of a number starts if no poll ends the wait, and what has been sent by
then. -/
def begins (probe : Probe) (network : Nat → Http.Network) (traffic : Http.Traffic) :
    Nat → Nat × Http.Traffic
  | 0 => (0, traffic)
  | number + 1 =>
      let (start, before) := begins probe network traffic number
      let (found, after) := (probe.check (network start)).run before
      (start + max 1 (found.time + probe.interval.toNat), after)

/-- The polls that follow one another for ever if none of them ends the wait. -/
def round (probe : Probe) (network : Nat → Http.Network) (traffic : Http.Traffic) (number : Nat) :
    Round :=
  let (start, before) := probe.begins network traffic number
  { start
    exchanges := probe.exchanges (network start) before
    found := ((probe.check (network start)).run before).1 }

/-- How a wait ends, by the polls there would be if nothing ended it: at the end of the first
one that finds the target ready before the deadline, or else at the deadline, with all polls
started that start before it. -/
inductive Ends (round : Nat → Round) (deadline : Nat) : Wait → Prop
  | ready {last : Nat} (first : ∀ number < last, ¬ (round number).IsReadyBy deadline)
      (inTime : (round last).IsReadyBy deadline) :
      Ends round deadline ⟨(round last).stop, true, last + 1⟩
  | timedOut {polls : Nat} (never : ∀ number, ¬ (round number).IsReadyBy deadline)
      (started : ∀ number, number < polls ↔ (round number).start < deadline) :
      Ends round deadline ⟨deadline, false, polls⟩

section Rounds

variable {network : Nat → Http.Network} {deadline number : Nat}

theorem round_start_succ (probe : Probe) (network : Nat → Http.Network) (traffic : Http.Traffic)
    (number : Nat) :
    (probe.round network traffic (number + 1)).start =
      (probe.round network traffic number).start +
        max 1 ((probe.round network traffic number).found.time + probe.interval.toNat) := rfl

theorem stop_le_start_succ (probe : Probe) (network : Nat → Http.Network)
    (traffic : Http.Traffic) (number : Nat) :
    (probe.round network traffic number).stop + probe.interval.toNat ≤
      (probe.round network traffic (number + 1)).start := by
  rw [round_start_succ, Round.stop]
  omega

theorem start_le_start {earlier later : Nat} (order : earlier ≤ later) :
    (probe.round network traffic earlier).start ≤ (probe.round network traffic later).start := by
  induction order with
  | refl => exact Nat.le_refl _
  | @step later _ induction =>
      rw [round_start_succ]
      exact Nat.le_trans induction (Nat.le_add_right _ _)

theorem sentBy_of_stop_le (stopped : (probe.round network traffic number).stop ≤ deadline) :
    (probe.round network traffic number).sentBy deadline =
      ((probe.round network traffic number).exchanges.filter (·.answer.reached)).map
        Http.Exchange.request := by
  have all : (probe.round network traffic number).exchanges.filter (fun exchange =>
      (probe.round network traffic number).start + exchange.sentAt ≤ deadline) =
        (probe.round network traffic number).exchanges := by
    rw [List.filter_eq_self]
    intro exchange member
    have early : exchange.sentAt ≤ (probe.round network traffic number).found.time :=
      sentAt_le_check_time member
    rw [Round.stop] at stopped
    rw [decide_eq_true_eq]
    omega
  rw [Round.sentBy, all]

/-- What has been sent when a poll starts is what those before it have sent. -/
theorem begins_sends (before : ∀ earlier < number,
    (probe.round network traffic earlier).stop ≤ deadline) :
    (probe.begins network traffic number).2 =
      ((List.range number).flatMap fun earlier =>
        (probe.round network traffic earlier).sentBy deadline).reverse ++ traffic := by
  induction number with
  | zero => rfl
  | succ number induction =>
      have earlier := induction fun earlier order => before earlier (by omega)
      have sent : (probe.begins network traffic (number + 1)).2 =
          ((probe.round network traffic number).sentBy deadline).reverse ++
            (probe.begins network traffic number).2 := by
        rw [sentBy_of_stop_le (before number (Nat.lt_succ_self number))]
        exact check_sends
      rw [sent, earlier, List.range_succ, List.flatMap_append, List.reverse_append,
        List.flatMap_singleton, List.append_assoc]

/-- A wait that has gone through all rounds that start before the deadline. -/
theorem ends_timedOut
    (begun : ∀ earlier < number, (probe.round network traffic earlier).start < deadline)
    (unready : ∀ earlier < number, ¬ (probe.round network traffic earlier).IsReadyBy deadline)
    (late : deadline ≤ (probe.round network traffic number).start) :
    Ends (probe.round network traffic) deadline ⟨deadline, false, number⟩ := by
  have behind {later : Nat} (order : number ≤ later) :
      deadline ≤ (probe.round network traffic later).start :=
    Nat.le_trans late (start_le_start order)
  apply Ends.timedOut
  · intro later
    by_cases order : later < number
    · exact unready later order
    · apply Round.not_isReadyBy_of_le
      exact Nat.le_trans (behind (Nat.not_lt.mp order)) (Round.start_le_stop _)
  · intro later
    constructor
    · exact begun later
    · intro early
      by_contra order
      exact absurd early (Nat.not_lt.mpr (behind (Nat.not_lt.mp order)))

/-- What is left of a wait before a poll starts. -/
def waitFrom (probe : Probe) (network : Nat → Http.Network) (traffic : Http.Traffic)
    (deadline number : Nat) : Wait × Http.Traffic :=
  (pollUntil (fun start left => probe.poll (network start) left) deadline probe.interval.toNat
    (probe.round network traffic number).start number).run (probe.begins network traffic number).2

theorem waitFrom_of_late (late : deadline ≤ (probe.round network traffic number).start) :
    probe.waitFrom network traffic deadline number =
      (⟨deadline, false, number⟩, (probe.begins network traffic number).2) := by
  rw [waitFrom, pollUntil, if_pos late]
  rfl

theorem waitFrom_of_early (early : (probe.round network traffic number).start < deadline) :
    let round := probe.round network traffic number
    let polled := (probe.poll (network round.start) (deadline - round.start)).run
      (probe.begins network traffic number).2
    probe.waitFrom network traffic deadline number =
      if polled.1.ready && round.start + polled.1.time < deadline then
        (⟨round.start + polled.1.time, true, number + 1⟩, polled.2)
      else
        (pollUntil (fun start left => probe.poll (network start) left) deadline
          probe.interval.toNat (round.start + max 1 (polled.1.time + probe.interval.toNat))
          (number + 1)).run polled.2 := by
  intro round polled
  rw [waitFrom, pollUntil, if_neg (Nat.not_le.mpr early), StateT.run_bind]
  dsimp only [bind]
  split <;> rfl

/-- A poll that is over by the deadline is one of the rounds. -/
theorem poll_of_stop_le (finished : (probe.round network traffic number).stop ≤ deadline) :
    let round := probe.round network traffic number
    (probe.poll (network round.start) (deadline - round.start)).run
        (probe.begins network traffic number).2 =
      (round.found, (probe.begins network traffic (number + 1)).2) := by
  intro round
  apply poll_of_le
  exact Nat.le_sub_of_add_le (Nat.add_comm _ _ ▸ finished)

theorem waitFrom_of_isReadyBy (early : (probe.round network traffic number).start < deadline)
    (ready : (probe.round network traffic number).IsReadyBy deadline) :
    probe.waitFrom network traffic deadline number =
      (⟨(probe.round network traffic number).stop, true, number + 1⟩,
        (probe.begins network traffic (number + 1)).2) := by
  rw [waitFrom_of_early early, poll_of_stop_le (Nat.le_of_lt ready.2), if_pos]
  · rfl
  · rw [Bool.and_eq_true, decide_eq_true_eq]
    exact ready

theorem waitFrom_of_isPassed (passed : (probe.round network traffic number).IsPassed deadline) :
    probe.waitFrom network traffic deadline number =
      probe.waitFrom network traffic deadline (number + 1) := by
  rw [waitFrom_of_early passed.begun, poll_of_stop_le passed.finished, if_neg]
  · rfl
  · rw [Bool.and_eq_true, decide_eq_true_eq]
    exact passed.unready

theorem waitFrom_of_lt (early : (probe.round network traffic number).start < deadline)
    (late : deadline < (probe.round network traffic number).stop) :
    probe.waitFrom network traffic deadline number =
      (⟨deadline, false, number + 1⟩,
        ((probe.round network traffic number).sentBy deadline).reverse ++
          (probe.begins network traffic number).2) := by
  have polled : ((probe.poll (network (probe.round network traffic number).start)
      (deadline - (probe.round network traffic number).start)).run
        (probe.begins network traffic number).2).1 =
      ⟨deadline - (probe.round network traffic number).start, false⟩ := by
    apply poll_of_lt
    exact Nat.sub_lt_left_of_lt_add (Nat.le_of_lt early) late
  have sent : ((probe.poll (network (probe.round network traffic number).start)
      (deadline - (probe.round network traffic number).start)).run
        (probe.begins network traffic number).2).2 =
      ((probe.round network traffic number).sentBy deadline).reverse ++
        (probe.begins network traffic number).2 := by
    have same (exchange : Http.Exchange) :
        exchange.sentAt ≤ deadline - (probe.round network traffic number).start ↔
          (probe.round network traffic number).start + exchange.sentAt ≤ deadline := by omega
    rw [poll_sends, Round.sentBy]
    simp only [same]
    rfl
  rw [waitFrom_of_early early, polled, sent]
  dsimp only
  rw [Bool.false_and, if_neg Bool.false_ne_true, pollUntil, if_pos (by omega)]
  rfl

/-- A wait that has passed some rounds goes on as it should. -/
theorem waitFrom_goes (number : Nat) (before : ∀ earlier < number,
    (probe.round network traffic earlier).IsPassed deadline) :
    let ran := probe.waitFrom network traffic deadline number
    Ends (probe.round network traffic) deadline ran.1 ∧
      ran.2 = ((List.range ran.1.polls).flatMap fun number =>
        (probe.round network traffic number).sentBy deadline).reverse ++ traffic := by
  intro ran
  have begun : ∀ earlier < number, (probe.round network traffic earlier).start < deadline :=
    fun earlier order => (before earlier order).begun
  have finished : ∀ earlier < number, (probe.round network traffic earlier).stop ≤ deadline :=
    fun earlier order => (before earlier order).finished
  have unready : ∀ earlier < number, ¬ (probe.round network traffic earlier).IsReadyBy deadline :=
    fun earlier order => (before earlier order).unready
  by_cases early : (probe.round network traffic number).start < deadline
  · by_cases ready : (probe.round network traffic number).IsReadyBy deadline
    · have ended : ran = _ := waitFrom_of_isReadyBy early ready
      rw [ended]
      constructor
      · exact .ready unready ready
      · apply begins_sends
        intro earlier order
        rcases Nat.lt_succ_iff_lt_or_eq.mp order with order | rfl
        · exact finished earlier order
        · exact Nat.le_of_lt ready.2
    · by_cases late : deadline < (probe.round network traffic number).stop
      · have ended : ran = _ := waitFrom_of_lt early late
        rw [ended]
        constructor
        · apply ends_timedOut
          · exact Nat.forall_lt_succ_right.mpr ⟨begun, early⟩
          · exact Nat.forall_lt_succ_right.mpr ⟨unready, ready⟩
          · have next := probe.stop_le_start_succ network traffic number
            omega
        · dsimp only
          rw [begins_sends finished, List.range_succ, List.flatMap_append, List.reverse_append,
            List.flatMap_singleton, List.append_assoc]
      · have passed : (probe.round network traffic number).IsPassed deadline :=
          ⟨early, Nat.not_lt.mp late, ready⟩
        have ended : ran = _ := waitFrom_of_isPassed passed
        rw [ended]
        exact waitFrom_goes (number + 1) (Nat.forall_lt_succ_right.mpr ⟨before, passed⟩)
  · have ended : ran = _ := waitFrom_of_late (Nat.not_lt.mp early)
    rw [ended]
    constructor
    · exact ends_timedOut begun unready (Nat.not_lt.mp early)
    · exact begins_sends finished
termination_by deadline - (probe.round network traffic number).start
decreasing_by
  rw [round_start_succ]
  omega

/-- The polls there would be leave no choice how a wait ends. -/
theorem Ends.unique {round : Nat → Round} {left right : Wait} (ends : Ends round deadline left)
    (others : Ends round deadline right) : left = right := by
  cases ends with
  | @ready last first inTime =>
      cases others with
      | @ready other otherFirst otherInTime =>
          have notBehind : last ≤ other := Nat.not_lt.mp fun before => first other before otherInTime
          have notBefore : other ≤ last := Nat.not_lt.mp fun before => otherFirst last before inTime
          rw [Nat.le_antisymm notBehind notBefore]
      | timedOut never _ => exact absurd inTime (never last)
  | @timedOut polls never started =>
      cases others with
      | @ready other _ inTime => exact absurd inTime (never other)
      | @timedOut otherPolls _ otherStarted =>
          have same (number : Nat) : number < polls ↔ number < otherPolls :=
            (started number).trans (otherStarted number).symm
          have least := same polls
          have most := same otherPolls
          have equal : polls = otherPolls := by omega
          rw [equal]

theorem Ends.ready_iff {round : Nat → Round} {ended : Wait} (ends : Ends round deadline ended) :
    ended.ready = true ↔ ∃ number, (round number).IsReadyBy deadline := by
  cases ends with
  | ready _ inTime => exact iff_of_true rfl ⟨_, inTime⟩
  | timedOut never _ =>
      apply iff_of_false Bool.false_ne_true
      rintro ⟨number, inTime⟩
      exact never number inTime

end Rounds

/-- Whatever is answered, and however late, polls follow one another at the interval of the
probe. Each is a request for its address, and takes until all is known that matters of the
answer. A wait ends with the first poll by which the target says in time that it is up, or else
at the deadline: the timeout of the probe, or a limit that is earlier. Nothing is sent for any
other poll. -/
theorem waitAmid_ends (probe : Probe) (network : Nat → Http.Network) (limit : Option Nat)
    (traffic : Http.Traffic) :
    let round := probe.round network traffic
    let deadline := limit.elim probe.timeout.toNat (min probe.timeout.toNat)
    let ran := (probe.waitAmid network limit).run traffic
    (round 0).start = 0 ∧
      (∀ number, (round number).stop + probe.interval.toNat ≤ (round (number + 1)).start ∧
        (0 < (round number).found.time + probe.interval.toNat →
          (round (number + 1)).start = (round number).stop + probe.interval.toNat)) ∧
      (∀ number url, Url.parse probe.address = .ok url →
        url.scheme = "http" ∨ url.scheme = "https" →
        Http.Client.StartsWith (network (round number).start) (probe.begins network traffic number).2
          (probe.client.requestTo .get url none) (round number).exchanges) ∧
      (∀ number, (round number).found.time = lasting probe.client (round number).exchanges) ∧
      (∀ number time, (round number).found = ⟨time, true⟩ ↔
        ∃ exchange ∈ (round number).exchanges, SaysUp probe.client time exchange) ∧
      Ends round deadline ran.1 ∧
      (ran.1.ready = true ↔ ∃ number, (round number).IsReadyBy deadline) ∧
      ran.2 = ((List.range ran.1.polls).flatMap fun number =>
        (round number).sentBy deadline).reverse ++ traffic := by
  intro round deadline ran
  rcases waitFrom_goes 0 (fun _ order => absurd order (Nat.not_lt_zero _)) with ⟨ends, sent⟩
  refine ⟨rfl, ?_, ?_, fun _ => check_time, fun _ _ => check_eq_ready, ends, ends.ready_iff, sent⟩
  · intro number
    constructor
    · exact probe.stop_le_start_succ network traffic number
    · intro moved
      have next : (round (number + 1)).start = (round number).start +
          max 1 ((round number).found.time + probe.interval.toNat) := rfl
      rw [next, Nat.max_eq_right moved, Round.stop, Nat.add_assoc]
  · intro number url parsed reachable
    exact probe.client.exchanges_startsWith _ parsed reachable .get none _

/-- A gateway that is polled every 100 ms, for a second at most. -/
def gatewayProbe : Probe :=
  ⟨⟨30000000, 5, []⟩, "http://gateway:8080/actuator/health", .ofSeconds 1, .ofMilliseconds 100⟩

/-- A gateway that refuses connections at first, then takes them but does not answer, and then
is up. -/
def hesitant (start : Nat) : Http.Network := fun _ _ =>
  if start < 100000000 then .refused 10000000
  else if start < 200000000 then .silence
  else .response 20000000
    ⟨200, none, some "\x7b\"status\":\"UP\"\x7d".toUTF8.toList, 5000000⟩

theorem waitAmid_ends_hesitant :
    let ran := (gatewayProbe.waitAmid hesitant none).run []
    ran.1 = ⟨265000000, true, 3⟩ ∧ ran.2.length = 2 := by
  intro ran
  rcases gatewayProbe.waitAmid_ends hesitant none [] with ⟨-, -, -, -, -, ends, -, sent⟩
  rw [show (none : Option Nat).elim gatewayProbe.timeout.toNat (min gatewayProbe.timeout.toNat) =
    1000000000 by decide +kernel] at ends sent
  have first : ∀ number < 2,
      ¬ (gatewayProbe.round hesitant [] number).IsReadyBy 1000000000 := by decide +kernel
  have third : (gatewayProbe.round hesitant [] 2).IsReadyBy 1000000000 := by decide +kernel
  have stop : (gatewayProbe.round hesitant [] 2).stop = 265000000 := by decide +kernel
  have ended : ran.1 = ⟨265000000, true, 3⟩ := stop ▸ ends.unique (.ready first third)
  refine ⟨ended, ?_⟩
  rw [ended] at sent
  rw [sent]
  decide +kernel

end FaultDrill.Probe
