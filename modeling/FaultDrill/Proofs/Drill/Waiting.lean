import FaultDrill.Drill.Equipment
import FaultDrill.Proofs.Drill.Episode
import FaultDrill.Proofs.Http.Exchange

/-!
What a drill sends while it waits for its target. All of it is requests for the health of
the target, and for what responses to them lead on to.
-/

namespace FaultDrill

namespace Http

/-- A request, and those that responses to it lead on to. -/
inductive LedFrom (network : Network) (first : Request) : Request → Prop
  | itself : LedFrom network first first
  | onward {traffic request time response next} :
      LedFrom network first request → network traffic request = .response time response →
      Client.redirected? request response = some (.ok next) → LedFrom network first next

variable {network : Network} {client : Client} {first request next : Request} {traffic : Traffic}

namespace LedFrom

theorem trans (later : LedFrom network next request) (earlier : LedFrom network first next) :
    LedFrom network first request := by
  induction later with
  | itself => exact earlier
  | onward _ answered leads induction => exact .onward induction answered leads

end LedFrom

/-- A request that asks for something, and does nothing else. -/
def Request.Asks (request : Request) : Prop := request.method = .get ∧ request.body = none

theorem asks_of_redirected? {response : Response} (asks : request.Asks)
    (leads : Client.redirected? request response = some (.ok next)) : next.Asks := by
  obtain ⟨location, _, leads⟩ := Option.bind_eq_some_iff.mp leads
  dsimp only at leads
  split at leads
  · cases leads
  · obtain ⟨url, _, leads⟩ := Option.bind_eq_some_iff.mp leads
    split at leads
    · cases leads
    · split at leads <;> cases leads
      · exact asks
      · exact ⟨rfl, rfl⟩

theorem LedFrom.asks (led : LedFrom network first request) (asks : first.Asks) : request.Asks := by
  induction led with
  | itself => exact asks
  | onward _ _ leads induction => exact asks_of_redirected? induction leads

theorem ledFrom_of_exchangesFrom {hops spent : Nat} {exchange : Exchange}
    (member : exchange ∈ client.exchangesFrom network hops spent first traffic) :
    LedFrom network first exchange.request := by
  induction hops, spent, first, traffic using Client.followInduction client network with
  | done hops spent first traffic reply heeded =>
      rw [Client.exchangesFrom_of_done client network heeded] at member
      cases List.mem_singleton.mp member
      exact .itself
  | exhausted spent first traffic later next heeded =>
      cases List.mem_singleton.mp member
      exact .itself
  | onward hops spent first traffic later next heeded induction =>
      rw [Client.exchangesFrom_of_onward client network heeded] at member
      rcases List.mem_cons.mp member with same | later
      · cases same
        exact .itself
      · rcases client.response_of_onward heeded with ⟨_, _, answered, leads⟩
        exact (induction later).trans (.onward .itself answered leads)

/-- What a client sends is its request and what responses lead on to. -/
theorem ledFrom_of_send {method : Method} {address : String} {body : Option Value}
    (member : request ∈ ((client.send network method address body).run traffic).2) :
    request ∈ traffic ∨ ∃ first, client.request? method address body = some first ∧
      LedFrom network first request := by
  rw [Client.send_traffic] at member
  rcases List.mem_append.mp member with sent | before
  · obtain ⟨exchange, among, rfl⟩ := List.mem_map.mp (List.mem_reverse.mp sent)
    have exchanged := (List.mem_filter.mp among).1
    obtain ⟨first, asked⟩ := client.request?_of_exchange network exchanged
    rw [Client.exchanges, asked] at exchanged
    exact .inr ⟨first, asked, ledFrom_of_exchangesFrom exchanged⟩
  · exact .inl before

end Http

namespace Probe

variable {network : Http.Network} {probe : Probe} {traffic : Http.Traffic}

theorem poll_traffic (limit : Nat) :
    ((probe.poll network limit).run traffic).2 =
      (((probe.client.within limit).send network .get probe.address none).run traffic).2 := by
  rw [poll, StateT.run_bind]
  dsimp only [bind]
  split <;> rfl

/-- What every poll preserves is preserved by a wait. -/
theorem pollUntil_invariant {world : Type} {poll : (start left : Nat) → StateM world Poll}
    (Invariant : world → Prop)
    (preserved : ∀ time left start, Invariant start → Invariant ((poll time left).run start).2)
    (limit interval now polls : Nat) {start : world} (initial : Invariant start) :
    Invariant ((pollUntil poll limit interval now polls).run start).2 := by
  induction now, polls using pollUntil.induct limit interval generalizing start with
  | case1 now polls late =>
      rw [pollUntil, if_pos late]
      exact initial
  | case2 now polls time induction =>
      rw [pollUntil, if_neg time, StateT.run_bind]
      dsimp only [bind]
      split
      · exact preserved _ _ start initial
      · exact induction _ (preserved _ _ start initial)

/-- A poll of a probe, or what responses to polls lead on to. -/
def Sends (probe : Probe) (network : Http.Network) (request : Http.Request) : Prop :=
  ∃ first, probe.client.request? .get probe.address none = some first ∧
    Http.LedFrom network first request

theorem sends_of_wait {limit : Option Nat} {request : Http.Request}
    (member : request ∈ ((probe.wait network limit).run traffic).2) :
    request ∈ traffic ∨ probe.Sends network request := by
  refine pollUntil_invariant
    (fun later => ∀ request ∈ later, request ∈ traffic ∨ probe.Sends network request)
    ?_ _ _ 0 0 (fun _ => .inl) request member
  intro time left start held request sent
  rw [poll_traffic] at sent
  rcases Http.ledFrom_of_send sent with before | ⟨first, asked, led⟩
  · exact held request before
  · exact .inr ⟨first, asked, led⟩

end Probe

namespace Surroundings

variable {surroundings : Surroundings} {equipment : Equipment}

theorem wait_traffic (site : Site) :
    ((surroundings.wait equipment).run site).2.traffic =
      ((equipment.probe.wait surroundings.network (surroundings.timeLeft site)).run
        site.traffic).2 := by
  -- How a wait has ended is told without doing anything.
  have quiet (ended : Probe.Wait) (later : Site) :
      ((do
        if ended.ready then return .ready
        else if surroundings.isInterrupted (← get) then return .cancelled
        else return .timedOut : StateM Site Readiness).run later).2 = later := by
    cases ended.ready with
    | true => rfl
    | false =>
        change ((if surroundings.isInterrupted later then pure .cancelled
          else pure .timedOut : StateM Site Readiness).run later).2 = later
        split <;> rfl
  exact congrArg Site.traffic (quiet _ _)

theorem sends_of_wait {request : Http.Request}
    (member : request ∈ ((surroundings.wait equipment).run {}).2.traffic) :
    equipment.probe.Sends surroundings.network request := by
  rw [wait_traffic] at member
  rcases Probe.sends_of_wait member with before | sent
  · cases before
  · exact sent

end Surroundings

end FaultDrill
