import FaultDrill.LoadStats
import Mathlib.Data.List.Count
import Mathlib.Data.List.ReduceOption
import Mathlib.Order.Basic

/-!
What the statistics of a load window count. Every request is known by what was
found of it: the status of its response, or nothing if there was no response. The
counts are those of the findings, whatever order the requests ended in.
-/

namespace FaultDrill

/-! ## Counts of statuses -/

namespace StatusCounts

def IsAscending (counts : StatusCounts) : Prop :=
  (counts.map Prod.fst).Pairwise (· < ·)

theorem mem_update {change : Nat → Nat} {status key : UInt16} {counts : StatusCounts}
    (member : key ∈ (update change status counts).map Prod.fst) :
    key = status ∨ key ∈ counts.map Prod.fst := by
  induction counts with
  | nil => simpa [update] using member
  | cons entry rest induction =>
      rcases entry with ⟨first, count⟩
      simp only [update] at member
      split at member
      · simpa using member
      · split at member
        · exact .inr member
        · simp only [List.map_cons, List.mem_cons] at member ⊢
          rcases member with equal | later
          · exact .inr (.inl equal)
          · rcases induction later with equal | earlier
            · exact .inl equal
            · exact .inr (.inr earlier)

theorem update_isAscending (change : Nat → Nat) (status : UInt16) {counts : StatusCounts}
    (ascending : counts.IsAscending) : (update change status counts).IsAscending := by
  induction counts with
  | nil => simp [update, IsAscending]
  | cons entry rest induction =>
      rcases entry with ⟨first, count⟩
      rcases List.pairwise_cons.mp ascending with ⟨least, later⟩
      simp only [update]
      split
      · rename_i below
        refine List.pairwise_cons.mpr ⟨?_, ascending⟩
        intro key member
        rcases List.mem_cons.mp member with equal | member
        · exact equal ▸ below
        · exact UInt16.lt_trans below (least key member)
      · split
        · exact ascending
        · rename_i notBelow different
          refine List.pairwise_cons.mpr ⟨?_, induction later⟩
          intro key member
          rcases mem_update member with equal | member
          · subst equal
            exact UInt16.lt_of_le_of_ne (UInt16.not_lt.mp notBelow) (Ne.symm different)
          · exact least key member

theorem count_eq_zero {status : UInt16} {counts : StatusCounts}
    (absent : status ∉ counts.map Prod.fst) : counts.count status = 0 := by
  induction counts with
  | nil => rfl
  | cons entry rest induction =>
      rw [List.map_cons, List.mem_cons, not_or] at absent
      have different : (status == entry.1) = false := by simpa using absent.1
      rw [count, List.lookup_cons, different]
      exact induction absent.2

theorem count_cons (status first : UInt16) (count : Nat) (rest : StatusCounts) :
    StatusCounts.count status ((first, count) :: rest) =
      if status = first then count else rest.count status := by
  by_cases equal : status = first
  · simp [StatusCounts.count, equal]
  · have different : (status == first) = false := beq_eq_false_iff_ne.mpr equal
    rw [StatusCounts.count, List.lookup_cons, different, if_neg equal]
    rfl

theorem count_update (change : Nat → Nat) (status other : UInt16) {counts : StatusCounts}
    (ascending : counts.IsAscending) :
    (update change status counts).count other =
      if other = status then change (counts.count status) else counts.count other := by
  induction counts with
  | nil => simp [update, count_cons, count_eq_zero]
  | cons entry rest induction =>
      rcases entry with ⟨first, count⟩
      rcases List.pairwise_cons.mp ascending with ⟨least, later⟩
      simp only [update]
      split
      · rename_i below
        have absent : status ∉ ((first, count) :: rest).map Prod.fst := by
          intro member
          rcases List.mem_cons.mp member with equal | member
          · exact UInt16.lt_irrefl _ (equal ▸ below)
          · exact UInt16.lt_irrefl _ (UInt16.lt_trans below (least _ member))
        rw [count_cons, count_eq_zero absent]
      · split
        · rename_i equal
          subst equal
          rw [count_cons, count_cons, count_cons, if_pos rfl]
          by_cases equal : other = status <;> simp [equal]
        · rename_i different
          rw [count_cons, count_cons, count_cons, induction later, if_neg different]
          by_cases equal : other = first
          · subst equal
            simp [Ne.symm different]
          · simp [equal]

/-- A table of counts for some occurrences: each status once, in ascending order, with
how often it occurs, and no status that does not occur. -/
structure IsTableOf (statuses : List UInt16) (counts : StatusCounts) : Prop where
  ascending : counts.IsAscending
  positive : ∀ entry ∈ counts, 0 < entry.2
  count : ∀ status, counts.count status = statuses.count status

theorem positive_update {change : Nat → Nat} (grows : ∀ count, 0 < change count)
    (status : UInt16) {counts : StatusCounts} (positive : ∀ entry ∈ counts, 0 < entry.2) :
    ∀ entry ∈ update change status counts, 0 < entry.2 := by
  induction counts with
  | nil => simpa [update] using grows 0
  | cons entry rest induction =>
      rcases entry with ⟨first, count⟩
      rw [List.forall_mem_cons] at positive
      simp only [update]
      split
      · rw [List.forall_mem_cons, List.forall_mem_cons]
        exact ⟨grows 0, positive⟩
      · split
        · rw [List.forall_mem_cons]
          exact ⟨grows count, positive.2⟩
        · rw [List.forall_mem_cons]
          exact ⟨positive.1, induction positive.2⟩

theorem IsTableOf.record {statuses : List UInt16} {counts : StatusCounts}
    (table : IsTableOf statuses counts) (status : UInt16) :
    IsTableOf (statuses ++ [status]) (counts.record status) where
  ascending := update_isAscending _ status table.ascending
  positive := positive_update (fun count => Nat.succ_pos count) status table.positive
  count other := by
    rw [StatusCounts.record, count_update _ _ _ table.ascending, table.count, table.count,
      List.count_append, List.count_singleton]
    by_cases equal : other = status
    · simp [equal]
    · simp [equal, Ne.symm equal]

theorem IsTableOf.recordAll {seen : List UInt16} {counts : StatusCounts}
    (table : IsTableOf seen counts) (statuses : List UInt16) :
    IsTableOf (seen ++ statuses)
      (statuses.foldl (fun counts status => counts.record status) counts) := by
  induction statuses generalizing seen counts with
  | nil => simpa using table
  | cons status rest induction => simpa using induction (table.record status)

theorem isTableOf_nil : IsTableOf [] [] :=
  ⟨.nil, by simp, fun _ => rfl⟩

theorem IsTableOf.perm {statuses same : List UInt16} {counts : StatusCounts}
    (table : IsTableOf statuses counts) (perm : statuses.Perm same) : IsTableOf same counts :=
  { table with count := fun status => (table.count status).trans (perm.count_eq status) }

end StatusCounts

/-! ## Outcomes -/

theorem Category.ofStatus_eq_success {status : UInt16} :
    ofStatus status = .success ↔ status = 200 := by
  unfold ofStatus
  split
  · simp_all
  · split <;> simp_all

theorem Category.ofStatus_eq_fallback {status : UInt16} :
    ofStatus status = .fallback ↔ status = 503 := by
  unfold ofStatus
  split
  · simp_all
  · split <;> simp_all

/-- The outcomes that requests can have. -/
inductive Outcome.IsGenuine : Outcome → Prop
  | response (status latency) : IsGenuine (.ofResponse status latency)
  | failure : IsGenuine .transportFailure

namespace Outcome.IsGenuine

variable {outcome : Outcome}

theorem category_eq (genuine : outcome.IsGenuine) :
    outcome.category = outcome.status.elim .error Category.ofStatus := by
  cases genuine <;> rfl

theorem category_eq_success (genuine : outcome.IsGenuine) :
    outcome.category = .success ↔ outcome.status = some 200 := by
  rw [genuine.category_eq]
  cases outcome.status <;> simp [Category.ofStatus_eq_success]

theorem category_eq_fallback (genuine : outcome.IsGenuine) :
    outcome.category = .fallback ↔ outcome.status = some 503 := by
  rw [genuine.category_eq]
  cases outcome.status <;> simp [Category.ofStatus_eq_fallback]

theorem category_eq_error (genuine : outcome.IsGenuine) :
    outcome.category = .error ↔ outcome.status ≠ some 200 ∧ outcome.status ≠ some 503 := by
  rw [Ne, Ne, ← genuine.category_eq_success, ← genuine.category_eq_fallback]
  cases outcome.category <;> simp

theorem isSome_latency (genuine : outcome.IsGenuine) :
    outcome.latency.isSome = outcome.status.isSome := by
  cases genuine <;> rfl

end Outcome.IsGenuine

/-! ## Statistics -/

namespace LoadStats

/-- The statistics count requests of which this was found: the status of a complete
response, or nothing. Each request is counted once, and only complete responses have a
status and a latency. -/
structure IsCountOf (found : List (Option UInt16)) (stats : LoadStats) : Prop where
  submitted : stats.submitted = found.length
  completed : stats.completed = found.length
  successes : stats.successes = found.count (some 200)
  fallbacks : stats.fallbacks = found.count (some 503)
  errors : stats.errors = found.countP fun status => status ≠ some 200 ∧ status ≠ some 503
  statuses : StatusCounts.IsTableOf found.reduceOption stats.statusCounts
  samples : stats.latency.samples = found.reduceOption.length

theorem IsCountOf.perm {found same : List (Option UInt16)} {stats : LoadStats}
    (counts : IsCountOf found stats) (perm : found.Perm same) : IsCountOf same stats where
  submitted := counts.submitted.trans perm.length_eq
  completed := counts.completed.trans perm.length_eq
  successes := counts.successes.trans (perm.count_eq _)
  fallbacks := counts.fallbacks.trans (perm.count_eq _)
  errors := counts.errors.trans (perm.countP_eq _)
  statuses := counts.statuses.perm (perm.filterMap id)
  samples := counts.samples.trans (perm.filterMap id).length_eq

theorem countCategory_total (outcomes : List Outcome) :
    countCategory .success outcomes + countCategory .error outcomes +
      countCategory .fallback outcomes = outcomes.length := by
  induction outcomes with
  | nil => rfl
  | cons outcome rest induction =>
      simp only [countCategory, List.countP_cons, List.length_cons] at induction ⊢
      cases outcome.category <;> simp <;> omega

theorem completed_ofOutcomes (submitted : Nat) (outcomes : List Outcome) :
    (ofOutcomes submitted outcomes).completed = outcomes.length :=
  countCategory_total outcomes

theorem countStatuses_isTableOf (outcomes : List Outcome) :
    StatusCounts.IsTableOf (outcomes.filterMap (·.status)) (countStatuses outcomes) :=
  StatusCounts.isTableOf_nil.recordAll _

theorem ofSamples_samples (samples : List Float) :
    (LatencySummary.ofSamples samples).samples = samples.length := by
  unfold LatencySummary.ofSamples
  split
  · simp_all [LatencySummary.none]
  · exact (List.mergeSort_perm samples _).length_eq

theorem countCategory_eq {category : Category} {outcomes : List Outcome}
    {test : Option UInt16 → Bool}
    (agrees : ∀ outcome ∈ outcomes, outcome.category = category ↔ test outcome.status) :
    countCategory category outcomes = (outcomes.map (·.status)).countP test := by
  rw [countCategory, List.countP_map]
  refine List.countP_congr fun outcome member => ?_
  rw [decide_eq_true_iff]
  exact agrees outcome member

theorem ofOutcomes_isCountOf {outcomes : List Outcome}
    (genuine : ∀ outcome ∈ outcomes, outcome.IsGenuine) :
    IsCountOf (outcomes.map (·.status)) (ofOutcomes outcomes.length outcomes) where
  submitted := (List.length_map _).symm
  completed := by rw [List.length_map, completed_ofOutcomes]
  successes := by
    refine countCategory_eq fun outcome member => ?_
    rw [beq_iff_eq]
    exact (genuine outcome member).category_eq_success
  fallbacks := by
    refine countCategory_eq fun outcome member => ?_
    rw [beq_iff_eq]
    exact (genuine outcome member).category_eq_fallback
  errors := by
    refine countCategory_eq fun outcome member => ?_
    rw [decide_eq_true_iff]
    exact (genuine outcome member).category_eq_error
  statuses := by
    rw [List.reduceOption, List.filterMap_map]
    exact countStatuses_isTableOf outcomes
  samples := by
    have latencies : (outcomes.filterMap (·.latency)).length =
        ((outcomes.map (·.status)).reduceOption).length := by
      rw [List.reduceOption, List.filterMap_map, List.length_filterMap_eq_countP,
        List.length_filterMap_eq_countP]
      refine List.countP_congr fun outcome member => ?_
      rw [(genuine outcome member).isSome_latency]
      rfl
    rw [← latencies]
    exact ofSamples_samples _

end LoadStats

end FaultDrill
