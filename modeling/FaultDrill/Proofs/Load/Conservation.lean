import FaultDrill.Proofs.Load.Counting
import FaultDrill.Proofs.Load.Exchanges
import FaultDrill.Proofs.Load.Schedule
import Mathlib.Data.List.Perm.Basic
import Mathlib.Data.List.ReduceOption

/-!
A load window loses no request and counts none twice. Requests are submitted, and end
with an outcome or with a worker that has broken down, in any order. The statistics
count what was found of each request.
-/

namespace FaultDrill

/-! ## What workers report -/

namespace Accumulator

theorem outcomes_submit (accumulator : Accumulator) :
    accumulator.submit.outcomes = accumulator.outcomes := rfl

theorem recordAll_submitted (accumulator : Accumulator) (outcomes : List Outcome) :
    (outcomes.foldl record accumulator).submitted = accumulator.submitted := by
  induction outcomes generalizing accumulator with
  | nil => rfl
  | cons outcome rest induction => exact induction (accumulator.record outcome)

theorem recordAll_outcomes (accumulator : Accumulator) (outcomes : List Outcome) :
    (outcomes.foldl record accumulator).outcomes = accumulator.outcomes ++ outcomes := by
  induction outcomes generalizing accumulator with
  | nil => simp
  | cons outcome rest induction =>
      rw [List.foldl_cons, induction, outcomes_record, List.append_assoc]
      rfl

end Accumulator

namespace LoadWindow

/-! ## Events -/

/-- What an event ends a request with. -/
@[simp] def Event.ending? : Event → Option (Option Outcome)
  | .submitted => none
  | .ended outcome => some outcome

/-- What happens to requests in some order: each is submitted once and ends once. -/
def happenings (requests : List (Nat × Fate)) : List Event :=
  requests.map (fun _ => .submitted) ++ requests.map fun request => .ended request.2.outcome

theorem happenings_endings (requests : List (Nat × Fate)) :
    (happenings requests).filterMap Event.ending? = requests.map (·.2.outcome) := by
  rw [happenings, List.filterMap_append, List.filterMap_map, List.filterMap_map]
  simp [Function.comp_def]

theorem happenings_submissions (requests : List (Nat × Fate)) :
    (happenings requests).countP (·.ending?.isNone) = requests.length := by
  rw [happenings, List.countP_append, List.countP_map, List.countP_map]
  simp [Function.comp_def]

/-- All that happens in a window is that its requests are submitted and end. -/
theorem events_perm (concurrency : Nat) (requests : List (Nat × Fate)) :
    (events concurrency requests).Perm (happenings requests) := by
  have runs : (pool concurrency requests).runs.length = requests.length := by
    have jobs := congrArg List.length (WorkerPool.submitAll_jobs
      (WorkerPool.ofConcurrency concurrency)
      (requests.map fun request =>
        ⟨request.1, request.2.time, request.2.outcome.isNone⟩))
    simpa [WorkerPool.ofConcurrency, WorkerPool.runs, pool] using jobs
  have ends : ((pool concurrency requests).runs.zip requests).map
      (fun entry => Event.ended entry.2.2.outcome) =
        requests.map fun request => Event.ended request.2.outcome := by
    have seconds := List.map_snd_zip (Nat.le_of_eq runs.symm)
    have ended := congrArg (List.map fun request : Nat × Fate => Event.ended request.2.outcome)
      seconds
    rwa [List.map_map] at ended
  refine ((List.mergeSort_perm _ _).map Prod.snd).trans (List.Perm.of_eq ?_)
  rw [List.map_append, List.map_map, List.map_map, happenings]
  exact congrArg _ ends

theorem stats_nil (concurrency : Nat) : stats concurrency [] = .ofOutcomes 0 [] := by
  have none := (events_perm concurrency []).eq_nil
  rw [stats, none]
  rfl

/-- A tally of events: submissions are counted, outcomes recorded in their order, and
workers that broke down are known by their number. -/
structure Tally.IsOf (events : List Event) (tally : Tally) : Prop where
  submitted : tally.accumulator.submitted = events.countP (·.ending?.isNone)
  recorded : tally.accumulator.outcomes = (events.filterMap Event.ending?).reduceOption
  broken : tally.broken = (events.filterMap Event.ending?).countP Option.isNone

theorem Tally.IsOf.count {events : List Event} {tally : Tally} (known : tally.IsOf events)
    (event : Event) : (tally.count event).IsOf (events ++ [event]) := by
  rcases known with ⟨submitted, recorded, broken⟩
  cases event with
  | submitted =>
      refine ⟨?_, ?_, ?_⟩
      · simp [Tally.count, Accumulator.submit, submitted]
      · simpa [Tally.count, List.filterMap_cons, Accumulator.outcomes_submit] using recorded
      · simpa [Tally.count, List.filterMap_cons] using broken
  | ended outcome =>
      cases outcome with
      | none =>
          refine ⟨?_, ?_, ?_⟩
          · simpa [Tally.count] using submitted
          · simpa [Tally.count, List.reduceOption_append] using recorded
          · simp [Tally.count, broken]
      | some outcome =>
          refine ⟨?_, ?_, ?_⟩
          · simpa [Tally.count, Accumulator.record] using submitted
          · simp [Tally.count, Accumulator.outcomes_record, recorded, List.reduceOption_append]
          · simpa [Tally.count] using broken

theorem Tally.IsOf.countAll {seen : List Event} {tally : Tally} (known : tally.IsOf seen)
    (events : List Event) : (events.foldl Tally.count tally).IsOf (seen ++ events) := by
  induction events generalizing seen tally with
  | nil => simpa using known
  | cons event rest induction => simpa using induction (known.count event)

theorem Tally.isOf_nil : Tally.IsOf [] {} := ⟨rfl, rfl, rfl⟩

theorem Tally.close_eq (tally : Tally) :
    tally.close = .ofOutcomes tally.accumulator.submitted
      (tally.accumulator.outcomes ++ List.replicate tally.broken .transportFailure) := by
  rw [Tally.close, Accumulator.snapshot, Accumulator.recordAll_submitted,
    Accumulator.recordAll_outcomes]

/-- Failures made up for missing outcomes stand for each of them. -/
theorem madeUp_perm (endings : List (Option Outcome)) :
    (endings.reduceOption ++
      List.replicate (endings.countP Option.isNone) Outcome.transportFailure).Perm
        (endings.map (·.getD .transportFailure)) := by
  induction endings with
  | nil => rfl
  | cons ending rest induction =>
      cases ending with
      | some outcome => simpa using induction
      | none =>
          have moved := @List.perm_middle _ Outcome.transportFailure rest.reduceOption
            (List.replicate (rest.countP Option.isNone) .transportFailure)
          simpa [List.replicate_succ] using moved.trans (induction.cons _)

/-- Events in which requests are submitted and end, in some order, of which this was found. -/
structure AreOf (found : List (Option UInt16)) (events : List Event) : Prop where
  submitted : events.countP (·.ending?.isNone) = found.length
  ended : ((events.filterMap Event.ending?).map fun outcome => outcome.bind (·.status)).Perm found
  genuine : ∀ outcome, .ended (some outcome) ∈ events → outcome.IsGenuine

theorem areOf_of_perm {requests : List (Nat × Fate)} {events : List Event}
    (perm : events.Perm (happenings requests))
    (genuine : ∀ request ∈ requests, ∀ outcome ∈ request.2.outcome, outcome.IsGenuine) :
    AreOf (requests.map fun request => request.2.outcome.bind (·.status)) events where
  submitted := by rw [perm.countP_eq, happenings_submissions, List.length_map]
  ended := by
    have ended := (perm.filterMap Event.ending?).map fun outcome => outcome.bind (·.status)
    rwa [happenings_endings, List.map_map] at ended
  genuine outcome member := by
    rcases List.mem_append.mp (perm.mem_iff.mp member) with submission | ending
    · rcases List.mem_map.mp submission with ⟨_, _, equal⟩
      cases equal
    · rcases List.mem_map.mp ending with ⟨request, inRequests, equal⟩
      exact genuine request inRequests outcome (Event.ended.inj equal)

/-- The outcomes on record when all events have been counted, with a failure for every worker
that broke down. -/
def recorded (events : List Event) : List Outcome :=
  let endings := events.filterMap Event.ending?
  endings.reduceOption ++ List.replicate (endings.countP Option.isNone) .transportFailure

theorem tally_eq (events : List Event) :
    tally events = .ofOutcomes (events.countP (·.ending?.isNone)) (recorded events) := by
  have known := Tally.isOf_nil.countAll events
  rw [List.nil_append] at known
  rw [tally, Tally.close_eq, known.submitted, known.recorded, known.broken, recorded]

namespace AreOf

variable {found : List (Option UInt16)} {events : List Event}

theorem recorded_statuses (are : AreOf found events) :
    ((recorded events).map (·.status)).Perm found := by
  have made := (madeUp_perm (events.filterMap Event.ending?)).map (·.status)
  have same : ((events.filterMap Event.ending?).map (·.getD .transportFailure)).map (·.status) =
      (events.filterMap Event.ending?).map fun outcome => outcome.bind (·.status) := by
    rw [List.map_map]
    apply List.map_congr_left
    intro outcome _
    cases outcome <;> rfl
  rw [same] at made
  exact made.trans are.ended

theorem recorded_genuine (are : AreOf found events) :
    ∀ outcome ∈ recorded events, outcome.IsGenuine := by
  intro outcome member
  rcases List.mem_append.mp member with reported | missing
  · rcases List.mem_filterMap.mp (List.reduceOption_mem_iff.mp reported) with
      ⟨event, happens, ends⟩
    cases event with
    | submitted => cases ends
    | ended ending =>
        cases ends
        exact are.genuine outcome happens
  · rw [List.eq_of_mem_replicate missing]
    exact .failure

end AreOf

/-- Whatever the order in which requests are submitted and end, they are counted by what
was found of each. -/
theorem tally_isCountOf {found : List (Option UInt16)} {events : List Event}
    (are : AreOf found events) : (tally events).IsCountOf found := by
  have statuses := are.recorded_statuses
  have submitted : events.countP (·.ending?.isNone) = (recorded events).length := by
    rw [are.submitted, ← statuses.length_eq, List.length_map]
  rw [tally_eq, submitted]
  exact (LoadStats.ofOutcomes_isCountOf are.recorded_genuine).perm statuses

end LoadWindow

/-! ## Requests -/

namespace LoadGenerator

theorem outcome_isGenuine (reply : Http.Client.Reply) : (outcome reply).IsGenuine := by
  unfold outcome
  split
  · exact .failure
  · split
    · exact .response _ _
    · exact .failure

theorem outcome_status (reply : Http.Client.Reply) :
    (outcome reply).status = reply.completeStatus? := by
  unfold outcome Http.Client.Reply.completeStatus?
  cases reply.result with
  | error failure => rfl
  | ok response =>
      dsimp only
      split <;> rfl

theorem fate_status (broken : Bool) (reply : Http.Client.Reply) :
    (fate broken reply).outcome.bind (·.status) =
      if broken then none else reply.completeStatus? := by
  cases broken with
  | false => exact outcome_status reply
  | true => rfl

section Run

variable {generator : LoadGenerator} {network : Nat → Http.Network} {breaksDown : Nat → Bool}
  {submissions : List Nat} {traffic : Http.Traffic}

theorem requests_run :
    (generator.requests network breaksDown submissions).run traffic =
      (submissions.zip ((List.range submissions.length).map fun number =>
          fate (breaksDown number) (generator.replyAt network traffic number)),
        generator.before network traffic submissions.length) := by
  have sent : (generator.replies network 0 submissions.length).run traffic = _ :=
    generator.replies_run network traffic 0 submissions.length
  rw [Nat.zero_add, ← List.range_eq_range'] at sent
  have numbered : ((List.range submissions.length).map
      (generator.replyAt network traffic)).mapIdx
        (fun number reply => fate (breaksDown number) reply) =
      (List.range submissions.length).map fun number =>
        fate (breaksDown number) (generator.replyAt network traffic number) := by
    apply List.ext_getElem
    · simp
    · simp
  rw [requests, StateT.run_bind, sent, ← numbered]
  rfl

/-- Of the requests that are submitted is found what their exchanges tell. -/
theorem requests_found :
    ((generator.requests network breaksDown submissions).run traffic).1.map
        (fun request => request.2.outcome.bind (·.status)) =
      (List.range submissions.length).map (generator.found network breaksDown traffic) := by
  rw [requests_run]
  let fates := (List.range submissions.length).map fun number =>
    fate (breaksDown number) (generator.replyAt network traffic number)
  let status (fate : LoadWindow.Fate) : Option UInt16 := fate.outcome.bind (·.status)
  have length : fates.length ≤ submissions.length := by simp [fates]
  calc (submissions.zip fates).map (status ∘ Prod.snd)
      = ((submissions.zip fates).map Prod.snd).map status := (List.map_map ..).symm
    _ = fates.map status := by rw [List.map_snd_zip length]
    _ = (List.range submissions.length).map (generator.found network breaksDown traffic) := by
        rw [List.map_map]
        exact List.map_congr_left fun number _ => fate_status _ _

theorem requests_genuine :
    ∀ request ∈ ((generator.requests network breaksDown submissions).run traffic).1,
      ∀ outcome ∈ request.2.outcome, outcome.IsGenuine := by
  intro request member result reported
  rw [requests_run] at member
  rcases List.mem_map.mp (List.of_mem_zip member).2 with ⟨number, -, equal⟩
  rw [← equal] at reported
  simp only [fate] at reported
  split at reported
  · cases reported
  · cases reported
    exact outcome_isGenuine _

theorem requests_areOf :
    let requests := ((generator.requests network breaksDown submissions).run traffic).1
    LoadWindow.AreOf
      ((List.range submissions.length).map (generator.found network breaksDown traffic))
      (LoadWindow.events generator.concurrency requests) := by
  intro requests
  rw [← requests_found]
  exact LoadWindow.areOf_of_perm (LoadWindow.events_perm _ requests) requests_genuine

end Run

section Measured

variable (sending : StateM Http.Traffic (List (Nat × LoadWindow.Fate)))
  (time : List (Nat × LoadWindow.Fate) → Nat) (concurrency : Nat) (traffic : Http.Traffic)

theorem measured_stats :
    (StateT.run (do
      let requests ← sending
      return (⟨time requests, LoadWindow.stats concurrency requests⟩ : Measurement))
      traffic).1.stats = LoadWindow.stats concurrency (sending.run traffic).1 := rfl

theorem measured_traffic :
    (StateT.run (do
      let requests ← sending
      return (⟨time requests, LoadWindow.stats concurrency requests⟩ : Measurement))
      traffic).2 = (sending.run traffic).2 := rfl

end Measured

section Windows

variable (generator : LoadGenerator) (network : Nat → Http.Network) (now : Nat)
  (lateness : Nat → Nat) (cancelled : Option Nat) (length : Duration) (rate : Float)
  (breaksDown : Nat → Bool) (traffic : Http.Traffic)

theorem runAmid_stats :
    let submissions := (LoadWindow.ofRate? now length rate).elim []
      (·.submissions lateness cancelled)
    ((generator.runAmid network now lateness cancelled length rate breaksDown).run
        traffic).1.stats =
      LoadWindow.stats generator.concurrency
        ((generator.requests network breaksDown submissions).run traffic).1 := by
  intro submissions
  have nothing : ((generator.requests network breaksDown []).run traffic).1 = [] := rfl
  simp only [submissions, runAmid]
  cases LoadWindow.ofRate? now length rate with
  | none =>
      rw [Option.elim_none, nothing, LoadWindow.stats_nil]
      rfl
  | some window =>
      rw [Option.elim_some]
      exact measured_stats _ _ _ traffic

theorem runAmid_traffic :
    let submissions := (LoadWindow.ofRate? now length rate).elim []
      (·.submissions lateness cancelled)
    ((generator.runAmid network now lateness cancelled length rate breaksDown).run traffic).2 =
      generator.before network traffic submissions.length := by
  intro submissions
  simp only [submissions, runAmid]
  cases LoadWindow.ofRate? now length rate with
  | none => rfl
  | some window =>
      rw [Option.elim_some]
      refine (measured_traffic _ _ _ traffic).trans ?_
      rw [requests_run]

/-- A load window sends one request for each submission to the address of its generator, and
none again; all else that it sends is where responses lead. Its statistics count one finding
for each request: the status of the response that is there in full before the client gives
up, or nothing if there is none or the worker breaks down. They would be the same counts had
requests been submitted, and ended, in any other order. -/
theorem run_counts :
    let submissions := (LoadWindow.ofRate? now length rate).elim []
      (·.submissions lateness cancelled)
    let exchanges := generator.exchanges network traffic
    let ran :=
      (generator.runAmid network now lateness cancelled length rate breaksDown).run traffic
    (∀ number url, Url.parse generator.address = .ok url →
      url.scheme = "http" ∨ url.scheme = "https" →
      Http.Client.StartsWith (network number) (generator.before network traffic number)
        (generator.client.requestTo .get url none) (exchanges number)) ∧
      ran.2 = ((List.range submissions.length).flatMap fun number =>
        ((exchanges number).filter (·.answer.reached)).map Http.Exchange.request).reverse ++
          traffic ∧
      ∃ found : List (Option UInt16), found.length = submissions.length ∧
        (∀ number status, found[number]? = some (some status) ↔ number < submissions.length ∧
          breaksDown number = false ∧
            ∃ exchange ∈ exchanges number, Completes generator.client status exchange) ∧
        ran.1.stats.IsCountOf found ∧
        ∀ events, LoadWindow.AreOf found events → (LoadWindow.tally events).IsCountOf found := by
  intro submissions exchanges ran
  let found := (List.range submissions.length).map (generator.found network breaksDown traffic)
  refine ⟨?_, ?_, found, ?_, ?_, ?_, fun _ => LoadWindow.tally_isCountOf⟩
  · intro number url parsed reachable
    exact generator.client.exchanges_startsWith _ parsed reachable .get none _
  · rw [← before_eq]
    exact generator.runAmid_traffic network now lateness cancelled length rate breaksDown traffic
  · rw [List.length_map, List.length_range]
  · exact fun _ _ => getElem?_found
  · rw [runAmid_stats]
    exact LoadWindow.tally_isCountOf requests_areOf

end Windows

/-- A generator that gives up after a second. -/
def gatewayLoad : LoadGenerator :=
  ⟨⟨1000000000, 5, []⟩, "http://gateway:8080/users/1", 2⟩

/-- A gateway in trouble: what it answers to the requests of a window, by their numbers. -/
def troubled (number : Nat) : Http.Network := fun _ request =>
  match number with
  | 0 => .response 10000000 ⟨200, none, some [], 0⟩
  | 1 => .response 10000000 ⟨503, none, some [], 0⟩
  | 2 => .response 10000000 ⟨200, none, none, 0⟩
  | 3 => .response 10000000 ⟨200, none, some [], 2000000000⟩
  | 4 => .refused 1000000
  | 5 => .silence
  | 6 =>
      if request.url.path = "/users/1" then .response 10000000 ⟨302, some "/", some [], 0⟩
      else .response 10000000 ⟨404, none, some [], 0⟩
  | _ => .response 10000000 ⟨200, none, some [], 0⟩

/-- Eight requests in a second. One reaches nobody, one is sent on elsewhere, and the last one
breaks its worker. -/
theorem run_counts_troubled :
    let ran := (gatewayLoad.runAmid troubled 0 (fun _ => 0) none (.ofSeconds 1) 8 (· == 7)).run []
    ran.1.stats.IsCountOf [some 200, some 503, none, none, none, none, some 404, none] ∧
      ran.2.length = 8 := by
  dsimp only
  rcases run_counts gatewayLoad troubled 0 (fun _ => 0) none (.ofSeconds 1) 8 (· == 7) [] with
    ⟨-, sent, found, length, known, counts, -⟩
  have same : found =
      (List.range found.length).map (gatewayLoad.found troubled (· == 7) []) := by
    apply eq_of_getElem?_eq_some
    · simp
    · intro number status
      rw [getElem?_found, known, length]
  have eight : found.length = 8 := length.trans (by decide +kernel)
  have statuses : found = [some 200, some 503, none, none, none, none, some 404, none] := by
    rw [same, eight]
    decide +kernel
  constructor
  · rw [← statuses]
    exact counts
  · rw [sent]
    decide +kernel

end LoadGenerator

end FaultDrill
