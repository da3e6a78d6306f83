import FaultDrill.Proofs.Load.Counting

/-!
Statistics in a single pass. Each outcome is counted by its category and, if there is a
response, by its status, and leaves a sample of the latency. All that is known of four
tallies in the end is known after every single outcome: they agree with one another.
-/

namespace FaultDrill

namespace StatusCounts

variable {among : UInt16 → Bool}

/-- The sum of the counts of some statuses. -/
def total (among : UInt16 → Bool) : StatusCounts → Nat
  | [] => 0
  | (status, count) :: rest => (if among status then count else 0) + total among rest

theorem total_record (status : UInt16) (counts : StatusCounts) :
    (counts.record status).total among = counts.total among + if among status then 1 else 0 := by
  rw [record]
  induction counts with
  | nil =>
      rw [update, total]
      exact Nat.add_comm _ _
  | cons entry rest induction =>
      rcases entry with ⟨first, count⟩
      rw [update]
      split
      · rw [total, Nat.zero_add, Nat.add_comm]
      · split
        · rename_i same
          rw [total, total, same]
          split <;> omega
        · rw [total, total, induction, Nat.add_assoc]

end StatusCounts

/-- The statuses of responses that are errors. -/
def isErrorStatus (status : UInt16) : Bool := status ≠ 200 && status ≠ 503

theorem Category.ofStatus_eq_error {status : UInt16} :
    ofStatus status = .error ↔ isErrorStatus status = true := by
  rw [isErrorStatus, Bool.and_eq_true, decide_eq_true_eq, decide_eq_true_eq, Ne, Ne,
    ← ofStatus_eq_success, ← ofStatus_eq_fallback]
  cases ofStatus status <;> simp

/-- What has been counted of some outcomes. -/
structure Reduction where
  successes : Nat := 0
  errors : Nat := 0
  fallbacks : Nat := 0
  statusCounts : StatusCounts := []
  samples : List Float := []

namespace Reduction

variable {outcomes : List Outcome} {outcome : Outcome} {reduction : Reduction}

def bump (category : Category) (reduction : Reduction) : Reduction :=
  match category with
  | .success => { reduction with successes := reduction.successes + 1 }
  | .fallback => { reduction with fallbacks := reduction.fallbacks + 1 }
  | .error => { reduction with errors := reduction.errors + 1 }

def list (status : UInt16) (reduction : Reduction) : Reduction :=
  { reduction with statusCounts := reduction.statusCounts.record status }

def sample (latency : Float) (reduction : Reduction) : Reduction :=
  { reduction with samples := reduction.samples ++ [latency] }

/-- One more outcome. -/
def take (reduction : Reduction) (outcome : Outcome) : Reduction :=
  let reduction := reduction.bump outcome.category
  let reduction := outcome.status.elim reduction reduction.list
  outcome.latency.elim reduction reduction.sample

theorem take_failure (reduction : Reduction) :
    reduction.take .transportFailure = { reduction with errors := reduction.errors + 1 } := rfl

theorem take_response (reduction : Reduction) (status : UInt16) (latency : Float) :
    reduction.take (.ofResponse status latency) =
      { successes := reduction.successes + if status = 200 then 1 else 0
        errors := reduction.errors + if isErrorStatus status then 1 else 0
        fallbacks := reduction.fallbacks + if status = 503 then 1 else 0
        statusCounts := reduction.statusCounts.record status
        samples := reduction.samples ++ [latency] } := by
  have taken : reduction.take (.ofResponse status latency) =
    ((reduction.bump (.ofStatus status)).list status).sample latency := rfl
  rw [taken]
  simp only [← Category.ofStatus_eq_success, ← Category.ofStatus_eq_fallback,
    ← Category.ofStatus_eq_error]
  cases Category.ofStatus status <;> rfl

def close (submitted : Nat) (reduction : Reduction) : LoadStats where
  submitted
  successes := reduction.successes
  errors := reduction.errors
  fallbacks := reduction.fallbacks
  latency := .ofSamples reduction.samples
  statusCounts := reduction.statusCounts

/-! ## One pass for all tallies -/

theorem foldl_take (reduction : Reduction) (outcomes : List Outcome) :
    outcomes.foldl take reduction =
      { successes := reduction.successes + LoadStats.countCategory .success outcomes
        errors := reduction.errors + LoadStats.countCategory .error outcomes
        fallbacks := reduction.fallbacks + LoadStats.countCategory .fallback outcomes
        statusCounts := (outcomes.filterMap (·.status)).foldl
          (fun counts status => counts.record status) reduction.statusCounts
        samples := reduction.samples ++ outcomes.filterMap (·.latency) } := by
  induction outcomes generalizing reduction with
  | nil => simp [LoadStats.countCategory]
  | cons outcome rest induction =>
      rw [List.foldl_cons, induction]
      rcases outcome with ⟨category, status, latency⟩
      cases category <;> cases status <;> cases latency <;>
        simp [take, bump, list, sample, LoadStats.countCategory] <;> omega

/-- Statistics are what a single pass makes of the outcomes. -/
theorem ofOutcomes_eq_close (submitted : Nat) (outcomes : List Outcome) :
    LoadStats.ofOutcomes submitted outcomes = (outcomes.foldl take {}).close submitted := by
  rw [foldl_take]
  simp [LoadStats.ofOutcomes, LoadStats.countStatuses, close]

/-! ## Tallies that agree -/

/-- The tallies of some outcomes agree. -/
structure Agrees (outcomes : List Outcome) (reduction : Reduction) : Prop where
  all : reduction.successes + reduction.errors + reduction.fallbacks = outcomes.length
  successes : reduction.successes = reduction.statusCounts.count 200
  fallbacks : reduction.fallbacks = reduction.statusCounts.count 503
  errors : reduction.errors =
    outcomes.countP (·.isTransportFailure) + reduction.statusCounts.total isErrorStatus
  statuses : StatusCounts.IsTableOf (outcomes.filterMap (·.status)) reduction.statusCounts
  samples : reduction.samples.length = reduction.statusCounts.total fun _ => true

namespace Agrees

theorem start : Agrees [] {} where
  all := rfl
  successes := rfl
  fallbacks := rfl
  errors := rfl
  statuses := StatusCounts.isTableOf_nil
  samples := rfl

theorem failure (agrees : Agrees outcomes reduction) :
    Agrees (outcomes ++ [.transportFailure]) (reduction.take .transportFailure) := by
  rw [take_failure]
  constructor
  · rw [List.length_append, List.length_singleton, ← agrees.all]
    dsimp only
    omega
  · exact agrees.successes
  · exact agrees.fallbacks
  · rw [List.countP_append, agrees.errors]
    exact Nat.add_right_comm _ _ 1
  · rw [List.filterMap_append]
    exact (List.append_nil _).symm ▸ agrees.statuses
  · exact agrees.samples

theorem response (agrees : Agrees outcomes reduction) (status : UInt16) (latency : Float) :
    Agrees (outcomes ++ [.ofResponse status latency])
      (reduction.take (.ofResponse status latency)) := by
  have recorded (other : UInt16) : (reduction.statusCounts.record status).count other =
      reduction.statusCounts.count other + if status = other then 1 else 0 := by
    rw [StatusCounts.record, StatusCounts.count_update _ _ _ agrees.statuses.ascending]
    by_cases same : status = other
    · rw [if_pos same.symm, if_pos same, same]
    · rw [if_neg (Ne.symm same), if_neg same, Nat.add_zero]
  have answered : [Outcome.ofResponse status latency].countP (·.isTransportFailure) = 0 := rfl
  rw [take_response]
  constructor
  · have counted := agrees.all
    rw [List.length_append, List.length_singleton, ← counted]
    dsimp only
    -- One of the three counters goes up.
    have one : (if status = 200 then 1 else 0) + (if isErrorStatus status then 1 else 0) +
        (if status = 503 then 1 else 0) = 1 := by
      by_cases success : status = 200
      · subst success
        rfl
      · by_cases fallback : status = 503
        · subst fallback
          rfl
        · simp [isErrorStatus, success, fallback]
    omega
  · rw [recorded, agrees.successes]
  · rw [recorded, agrees.fallbacks]
  · rw [StatusCounts.total_record, agrees.errors, List.countP_append, answered]
    exact Nat.add_assoc _ _ _
  · rw [List.filterMap_append]
    exact agrees.statuses.record status
  · rw [StatusCounts.total_record, List.length_append, agrees.samples]
    rfl

theorem take (agrees : Agrees outcomes reduction) (genuine : outcome.IsGenuine) :
    Agrees (outcomes ++ [outcome]) (reduction.take outcome) := by
  cases genuine with
  | response status latency => exact agrees.response status latency
  | failure => exact agrees.failure

theorem takeAll {later : List Outcome} (agrees : Agrees outcomes reduction)
    (genuine : ∀ outcome ∈ later, outcome.IsGenuine) :
    Agrees (outcomes ++ later) (later.foldl Reduction.take reduction) := by
  induction later generalizing outcomes reduction with
  | nil => exact (List.append_nil _).symm ▸ agrees
  | cons outcome rest induction =>
      rcases List.forall_mem_cons.mp genuine with ⟨first, others⟩
      rw [List.append_cons]
      exact induction (agrees.take first) others

end Agrees

end Reduction

/-! ## Statistics -/

namespace LoadStats

theorem countP_status (outcomes : List Outcome) (status : UInt16) :
    (outcomes.filterMap (·.status)).count status =
      outcomes.countP fun outcome => outcome.status = some status := by
  rw [List.count, List.countP_filterMap]
  apply List.countP_congr
  intro outcome _
  cases outcome.status <;> simp

/-- The counters, the counts of statuses and the samples are all of the same requests. -/
theorem ofOutcomes_tallies (submitted : Nat) {outcomes : List Outcome}
    (genuine : ∀ outcome ∈ outcomes, outcome.IsGenuine) :
    let stats := ofOutcomes submitted outcomes
    stats.successes + stats.errors + stats.fallbacks = outcomes.length ∧
      (∀ status, stats.statusCounts.count status =
        outcomes.countP fun outcome => outcome.status = some status) ∧
      stats.statusCounts.IsAscending ∧ (∀ entry ∈ stats.statusCounts, 0 < entry.2) ∧
      stats.successes = stats.statusCounts.count 200 ∧
      stats.fallbacks = stats.statusCounts.count 503 ∧
      stats.errors = outcomes.countP (·.isTransportFailure) +
        stats.statusCounts.total (fun status => status ≠ 200 && status ≠ 503) ∧
      stats.latency.samples = stats.statusCounts.total (fun _ => true) ∧
      (stats.latency.samples = 0 → stats.latency = ⟨0, 0, 0, 0, 0, 0⟩) := by
  intro stats
  have agrees : (outcomes.foldl Reduction.take {}).Agrees outcomes :=
    Reduction.Agrees.start.takeAll genuine
  have closed : stats = (outcomes.foldl Reduction.take {}).close submitted :=
    Reduction.ofOutcomes_eq_close submitted outcomes
  rw [closed]
  refine ⟨agrees.all, ?_, agrees.statuses.ascending, agrees.statuses.positive, agrees.successes,
    agrees.fallbacks, agrees.errors, ?_, ?_⟩
  · intro status
    rw [← countP_status]
    exact agrees.statuses.count status
  · exact (ofSamples_samples _).trans agrees.samples
  · intro none
    have empty : (outcomes.foldl Reduction.take {}).samples = [] :=
      List.length_eq_zero_iff.mp ((ofSamples_samples _).symm.trans none)
    rw [Reduction.close, empty]
    rfl

theorem ofOutcomes_tallies_mixed :
    let outcomes : List Outcome := [.ofResponse 200 4, .ofResponse 503 1, .transportFailure,
      .ofResponse 418 2, .ofResponse 200 3]
    let stats := ofOutcomes 7 outcomes
    (∀ outcome ∈ outcomes, outcome.IsGenuine) ∧
      stats.statusCounts = [(200, 2), (418, 1), (503, 1)] ∧
      stats.successes = 2 ∧ stats.fallbacks = 1 ∧ stats.errors = 1 + 1 ∧
      stats.latency.samples = 4 := by
  intro outcomes stats
  have genuine : ∀ outcome ∈ outcomes, outcome.IsGenuine := by
    simp only [outcomes, List.forall_mem_cons]
    exact ⟨.response _ _, .response _ _, .failure, .response _ _, .response _ _, by simp⟩
  rcases ofOutcomes_tallies 7 genuine with
    ⟨_, _, _, _, successes, fallbacks, errors, samples, _⟩
  exact ⟨genuine, rfl, successes, fallbacks, errors, samples⟩

end LoadStats

end FaultDrill
