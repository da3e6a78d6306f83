import FaultDrill.LoadGenerator
import FaultDrill.Proofs.Http.Exchange

/-!
What the requests of a load window exchange with the network, and what is found of them.
Requests go out in the order of their numbers, and what is answered to one may depend on all
those in front of it.
-/

namespace FaultDrill

/-! ## Complete responses -/

/-- The status of a response that is there to its last byte. -/
def Http.Client.Reply.completeStatus? (reply : Http.Client.Reply) : Option UInt16 :=
  match reply.result with
  | .error _ => none
  | .ok response => if response.body.isSome then some response.status else none

namespace LoadGenerator

/-- An exchange by which a request comes to a complete response: the response leads nowhere
else, and its last byte is there before the client gives up. -/
inductive Completes (client : Http.Client) (status : UInt16) : Http.Exchange → Prop
  | response {sentAt head : Nat} {request : Http.Request} {response : Http.Response}
      {body : List UInt8}
      (tells : response.status = status)
      (ends : ¬ Http.Client.LeadsOn request (.response head response))
      (complete : response.body = some body)
      (inTime : sentAt + head + response.bodyTime ≤ client.timeout) :
      Completes client status ⟨sentAt, request, .response head response⟩

/-- What has been sent before the request of a number, by all those in front of it. -/
def before (generator : LoadGenerator) (network : Nat → Http.Network) (traffic : Http.Traffic) :
    Nat → Http.Traffic
  | 0 => traffic
  | number + 1 =>
      let before := generator.before network traffic number
      (((generator.client.exchanges (network number) .get generator.address none before).filter
        (·.answer.reached)).map Http.Exchange.request).reverse ++ before

/-- What the request of a number exchanges with its network. -/
def exchanges (generator : LoadGenerator) (network : Nat → Http.Network)
    (traffic : Http.Traffic) (number : Nat) : List Http.Exchange :=
  generator.client.exchanges (network number) .get generator.address none
    (generator.before network traffic number)

theorem before_eq {generator : LoadGenerator} {network : Nat → Http.Network}
    {traffic : Http.Traffic} {number : Nat} :
    generator.before network traffic number =
      ((List.range number).flatMap fun earlier =>
        ((generator.exchanges network traffic earlier).filter (·.answer.reached)).map
          Http.Exchange.request).reverse ++ traffic := by
  induction number with
  | zero => rfl
  | succ number induction =>
      rw [List.range_succ, List.flatMap_append, List.reverse_append, List.flatMap_singleton,
        List.append_assoc, ← induction]
      rfl

/-- The reply to the request of a number. -/
def replyAt (generator : LoadGenerator) (network : Nat → Http.Network)
    (traffic : Http.Traffic) (number : Nat) : Http.Client.Reply :=
  ((generator.reply (network number)).run (generator.before network traffic number)).1

/-- What is found of the request of a number. A worker that breaks down finds nothing. -/
def found (generator : LoadGenerator) (network : Nat → Http.Network) (breaksDown : Nat → Bool)
    (traffic : Http.Traffic) (number : Nat) : Option UInt16 :=
  if breaksDown number then none else (generator.replyAt network traffic number).completeStatus?

variable {generator : LoadGenerator} {network : Nat → Http.Network} {breaksDown : Nat → Bool}
  {traffic : Http.Traffic} {number : Nat}

theorem completeStatus?_read {client : Http.Client} {reply : Http.Client.Reply}
    {status : UInt16} :
    (client.read reply).completeStatus? = some status ↔ ∃ time response body,
      reply = ⟨time, .ok response⟩ ∧ response.status = status ∧ response.body = some body ∧
        time + response.bodyTime ≤ client.timeout := by
  constructor
  · intro found
    rcases reply with ⟨time, failure | response⟩
    · cases found
    · rw [Http.Client.read] at found
      dsimp only at found
      split at found
      · cases found
      · rename_i inTime
        rw [Http.Client.Reply.completeStatus?] at found
        dsimp only at found
        split at found
        · rename_i whole
          rcases Option.isSome_iff_exists.mp whole with ⟨body, complete⟩
          exact ⟨time, response, body, rfl, Option.some.inj found, complete, Nat.not_lt.mp inTime⟩
        · cases found
  · rintro ⟨time, response, body, rfl, rfl, complete, inTime⟩
    rw [Http.Client.read]
    dsimp only
    rw [if_neg (Nat.not_lt.mpr inTime), Http.Client.Reply.completeStatus?]
    simp [complete]

/-- A request is found to have a status exactly if it is told in a complete response. -/
theorem replyAt_completeStatus? {status : UInt16} :
    (generator.replyAt network traffic number).completeStatus? = some status ↔
      ∃ exchange ∈ generator.exchanges network traffic number,
        Completes generator.client status exchange := by
  have read : generator.replyAt network traffic number = generator.client.read
      ((generator.client.send (network number) .get generator.address none).run
        (generator.before network traffic number)).1 := rfl
  rw [read, completeStatus?_read]
  constructor
  · rintro ⟨time, response, body, replied, tells, complete, inTime⟩
    rcases (generator.client.send_eq_ok (network number)).mp replied with
      ⟨⟨sentAt, request, answer⟩, member, head, answered, ends, behind, -⟩
    dsimp only at answered ends behind
    subst answered behind
    exact ⟨_, member, .response tells ends complete inTime⟩
  · rintro ⟨exchange, member, completes⟩
    cases completes with
    | @response sentAt head request response body tells ends complete inTime =>
        refine ⟨sentAt + head, response, body, ?_, tells, complete, inTime⟩
        exact (generator.client.send_eq_ok (network number)).mpr
          ⟨_, member, head, rfl, ends, rfl, by omega⟩

theorem found_eq_some {status : UInt16} :
    generator.found network breaksDown traffic number = some status ↔
      breaksDown number = false ∧ ∃ exchange ∈ generator.exchanges network traffic number,
        Completes generator.client status exchange := by
  rw [found, ← replyAt_completeStatus?]
  cases breaksDown number <;> simp

/-- Findings are known by the statuses among them. -/
theorem eq_of_getElem?_eq_some {left right : List (Option UInt16)}
    (length : left.length = right.length)
    (same : ∀ (number : Nat) (status : UInt16), left[number]? = some (some status) ↔
      right[number]? = some (some status)) : left = right := by
  apply List.ext_getElem length
  intro number among alsoAmong
  apply Option.ext
  intro status
  have here := same number status
  rwa [List.getElem?_eq_getElem among, List.getElem?_eq_getElem alsoAmong, Option.some_inj,
    Option.some_inj] at here

/-- What is found of so many requests, by their numbers. -/
theorem getElem?_found {count : Nat} {status : UInt16} :
    ((List.range count).map (generator.found network breaksDown traffic))[number]? =
        some (some status) ↔
      number < count ∧ breaksDown number = false ∧
        ∃ exchange ∈ generator.exchanges network traffic number,
          Completes generator.client status exchange := by
  rw [← found_eq_some, List.getElem?_map]
  by_cases among : number < count
  · rw [List.getElem?_range among, Option.map_some, Option.some_inj]
    exact (and_iff_right among).symm
  · have beyond : (List.range count)[number]? = none := by
      rw [List.getElem?_eq_none_iff, List.length_range]
      exact Nat.not_lt.mp among
    rw [beyond, Option.map_none]
    exact iff_of_false nofun fun known => among known.1

theorem reply_run :
    (generator.reply (network number)).run (generator.before network traffic number) =
      (generator.replyAt network traffic number,
        generator.before network traffic (number + 1)) := by
  have sent := generator.client.send_traffic (network number) .get generator.address none
    (generator.before network traffic number)
  exact congrArg (Prod.mk (generator.replyAt network traffic number)) sent

/-- Requests go out in the order of their numbers. -/
theorem replies_run (generator : LoadGenerator) (network : Nat → Http.Network)
    (traffic : Http.Traffic) (number count : Nat) :
    (generator.replies network number count).run (generator.before network traffic number) =
      ((List.range' number count).map (generator.replyAt network traffic),
        generator.before network traffic (number + count)) := by
  induction count generalizing number with
  | zero => rfl
  | succ count induction =>
      have first : (generator.replies network number (count + 1)).run
          (generator.before network traffic number) =
          (generator.replyAt network traffic number ::
              ((generator.replies network (number + 1) count).run
                (generator.before network traffic (number + 1))).1,
            ((generator.replies network (number + 1) count).run
              (generator.before network traffic (number + 1))).2) := by
        rw [replies, StateT.run_bind, reply_run]
        rfl
      rw [first, induction, List.range'_succ, List.map_cons, Nat.add_right_comm, Nat.add_assoc]

end LoadGenerator

end FaultDrill
