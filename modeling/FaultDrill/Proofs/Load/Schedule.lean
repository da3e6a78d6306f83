import FaultDrill.WorkerPool
import Mathlib.Data.List.Perm.Basic

/-!
When the jobs of a pool run. A job starts in its turn, as soon as it has been submitted
and a permit is back. No permit is idle while a job waits for one, and none is held twice.
-/

namespace FaultDrill

/-- The job has been submitted and has not started. -/
def Run.IsWaiting (time : Nat) (run : Run) : Prop :=
  run.job.submitted ≤ time ∧ time < run.start

namespace WorkerPool

variable {pool : WorkerPool} {job : Job}

/-! ## Times of return -/

theorem insertTime_perm (time : Nat) (times : List Nat) :
    (insertTime time times).Perm (time :: times) := by
  induction times with
  | nil => rfl
  | cons first rest induction =>
      rw [insertTime]
      split
      · rfl
      · exact (induction.cons first).trans (.swap time first rest)

theorem insertTime_ascending (time : Nat) {times : List Nat}
    (ascending : times.Pairwise (· ≤ ·)) : (insertTime time times).Pairwise (· ≤ ·) := by
  induction times with
  | nil => exact List.pairwise_singleton _ _
  | cons first rest induction =>
      rcases List.pairwise_cons.mp ascending with ⟨least, later⟩
      rw [insertTime]
      split
      · rename_i before
        apply List.pairwise_cons.mpr ⟨_, ascending⟩
        intro other member
        rcases List.mem_cons.mp member with equal | member
        · exact equal ▸ before
        · exact Nat.le_trans before (least other member)
      · rename_i notBefore
        apply List.pairwise_cons.mpr ⟨_, induction later⟩
        intro other member
        rcases List.mem_cons.mp ((insertTime_perm time rest).mem_iff.mp member) with equal | member
        · omega
        · exact least other member

/-- The time at which a job starts that is submitted next. -/
def startOf (pool : WorkerPool) (job : Job) : Nat := max job.submitted pool.nextPermit.1

theorem submit_latest (pool : WorkerPool) (job : Job) :
    (pool.submit job).latest = ⟨job, pool.startOf job⟩ :: pool.latest := rfl

theorem submit_returns (pool : WorkerPool) (job : Job) :
    (pool.submit job).returns =
      insertTime (pool.startOf job + job.length) pool.nextPermit.2 := rfl

theorem running_submit (pool : WorkerPool) (job : Job) (time : Nat) :
    (pool.submit job).running time =
      pool.running time + if Run.isOngoing time ⟨job, pool.startOf job⟩ then 1 else 0 := by
  rw [running, submit_latest, List.countP_cons]
  rfl

/-! ## Pools at work -/

/-- What a pool keeps as jobs are submitted to it. -/
structure IsOrderly (pool : WorkerPool) : Prop where
  permits : 0 < pool.concurrency
  ascending : pool.returns.Pairwise (· ≤ ·)
  enough : pool.returns.length ≤ pool.concurrency
  submitted : ∀ run ∈ pool.latest, run.job.submitted ≤ run.start
  inTurn : pool.latest.Pairwise fun later earlier => earlier.start ≤ later.start
  /-- Once a job has had to wait, no permit is back before that job has started. -/
  delayed : ∀ run ∈ pool.latest, run.job.submitted < run.start →
    pool.returns.length = pool.concurrency ∧ ∀ time ∈ pool.returns, run.start ≤ time
  /-- When all have started, those jobs go on whose permits are not back. -/
  held : ∀ time, (∀ run ∈ pool.latest, run.start ≤ time) →
    pool.running time = pool.returns.countP (time < ·)
  limited : ∀ time, pool.running time ≤ pool.concurrency
  busy : ∀ time, ∀ run ∈ pool.latest, run.IsWaiting time →
    pool.running time = pool.concurrency

theorem isOrderly_ofConcurrency (concurrency : Nat) : (ofConcurrency concurrency).IsOrderly where
  permits := by simp only [ofConcurrency]; omega
  ascending := .nil
  enough := Nat.zero_le _
  submitted := nofun
  inTurn := .nil
  delayed := nofun
  held _ _ := rfl
  limited _ := Nat.zero_le _
  busy := nofun

namespace IsOrderly

/-- A job gets a permit that nobody has had yet, or the one that is back first. -/
theorem nextPermit_cases (orderly : pool.IsOrderly) :
    (pool.returns.length < pool.concurrency ∧ pool.nextPermit = (0, pool.returns)) ∨
      ∃ soonest others, pool.returns = soonest :: others ∧
        pool.returns.length = pool.concurrency ∧ pool.nextPermit = (soonest, others) := by
  have permits := orderly.permits
  have enough := orderly.enough
  cases returns : pool.returns with
  | nil =>
      refine .inl ⟨permits, ?_⟩
      simp [nextPermit, returns]
  | cons soonest others =>
      rw [returns] at enough
      by_cases fresh : (soonest :: others).length < pool.concurrency
      · refine .inl ⟨fresh, ?_⟩
        simp only [nextPermit, returns, fresh, if_true]
      · refine .inr ⟨soonest, others, rfl, by omega, ?_⟩
        simp only [nextPermit, returns, fresh, if_false]

theorem soonest_le (orderly : pool.IsOrderly) {soonest : Nat} {others : List Nat}
    (returns : pool.returns = soonest :: others) :
    ∀ time ∈ pool.returns, soonest ≤ time := by
  have ascending := orderly.ascending
  rw [returns] at ascending ⊢
  intro time member
  rcases List.mem_cons.mp member with equal | member
  · exact Nat.le_of_eq equal.symm
  · exact (List.pairwise_cons.mp ascending).1 time member

/-- No job overtakes another. -/
theorem start_le_startOf (orderly : pool.IsOrderly) {run : Run} (member : run ∈ pool.latest)
    (inOrder : run.job.submitted ≤ job.submitted) : run.start ≤ pool.startOf job := by
  have submitted := orderly.submitted run member
  by_cases delayed : run.job.submitted < run.start
  · rcases orderly.delayed run member delayed with ⟨full, later⟩
    rcases orderly.nextPermit_cases with ⟨fresh, _⟩ | ⟨soonest, others, returns, _, next⟩
    · omega
    · have bound := later soonest (returns ▸ List.mem_cons_self)
      rw [startOf, next]
      exact Nat.le_trans bound (Nat.le_max_right _ _)
  · rw [startOf]
    omega

/-- A job that has to wait waits for all permits. -/
theorem delayed_startOf (orderly : pool.IsOrderly) (delayed : job.submitted < pool.startOf job) :
    pool.returns.length = pool.concurrency ∧ ∀ time ∈ pool.returns, pool.startOf job ≤ time := by
  rw [startOf] at delayed ⊢
  rcases orderly.nextPermit_cases with ⟨_, next⟩ | ⟨soonest, others, returns, full, next⟩
  · rw [next] at delayed
    omega
  · rw [next] at delayed ⊢
    refine ⟨full, fun time member => ?_⟩
    have bound := orderly.soonest_le returns time member
    omega

/-- Permits that come back after a time, before and after a job has taken one. -/
theorem countP_nextPermit (orderly : pool.IsOrderly) {time : Nat}
    (started : pool.startOf job ≤ time) :
    pool.nextPermit.2.countP (time < ·) = pool.returns.countP (time < ·) := by
  rcases orderly.nextPermit_cases with ⟨_, next⟩ | ⟨soonest, others, returns, _, next⟩
  · rw [next]
  · rw [startOf, next] at started
    have back : ¬ time < soonest := by omega
    rw [next, returns, List.countP_cons_of_neg (by simpa using back)]

theorem length_nextPermit (orderly : pool.IsOrderly) :
    pool.nextPermit.2.length + 1 ≤ pool.concurrency ∧
      (pool.returns.length = pool.concurrency →
        pool.nextPermit.2.length + 1 = pool.concurrency) := by
  rcases orderly.nextPermit_cases with ⟨fresh, next⟩ | ⟨soonest, others, returns, full, next⟩
  · rw [next]
    exact ⟨fresh, fun full => by omega⟩
  · rw [returns, List.length_cons] at full
    rw [next]
    exact ⟨Nat.le_of_eq full, fun _ => full⟩

theorem mem_returns_of_nextPermit (orderly : pool.IsOrderly) {time : Nat}
    (member : time ∈ pool.nextPermit.2) : time ∈ pool.returns := by
  rcases orderly.nextPermit_cases with ⟨_, next⟩ | ⟨soonest, others, returns, _, next⟩
  · rwa [next] at member
  · rw [next] at member
    exact returns ▸ List.mem_cons_of_mem soonest member

/-! ### One more job -/

section Submission

variable (orderly : pool.IsOrderly)

include orderly

theorem ascending_submit : (pool.submit job).returns.Pairwise (· ≤ ·) := by
  rw [submit_returns]
  apply insertTime_ascending
  have ascending := orderly.ascending
  rcases orderly.nextPermit_cases with ⟨_, next⟩ | ⟨soonest, others, returns, _, next⟩
  · rwa [next]
  · rw [returns] at ascending
    rw [next]
    exact (List.pairwise_cons.mp ascending).2

theorem delayed_submit (inOrder : ∀ run ∈ pool.latest, run.job.submitted ≤ job.submitted) :
    ∀ run ∈ (pool.submit job).latest, run.job.submitted < run.start →
      (pool.submit job).returns.length = pool.concurrency ∧
        ∀ time ∈ (pool.submit job).returns, run.start ≤ time := by
  have perm := insertTime_perm (pool.startOf job + job.length) pool.nextPermit.2
  intro run member delayed
  rw [submit_returns, perm.length_eq]
  -- Whoever waited, all permits were out then and are back no sooner than that run started.
  have waited : pool.returns.length = pool.concurrency ∧ (∀ time ∈ pool.returns, run.start ≤ time) ∧
      run.start ≤ pool.startOf job := by
    rw [submit_latest] at member
    rcases List.mem_cons.mp member with equal | member
    · subst equal
      rcases orderly.delayed_startOf delayed with ⟨full, later⟩
      exact ⟨full, later, Nat.le_refl _⟩
    · rcases orderly.delayed run member delayed with ⟨full, later⟩
      exact ⟨full, later, orderly.start_le_startOf member (inOrder run member)⟩
  rcases waited with ⟨full, later, inTurn⟩
  refine ⟨orderly.length_nextPermit.2 full, fun time among => ?_⟩
  rcases List.mem_cons.mp (perm.mem_iff.mp among) with equal | among
  · omega
  · exact later time (orderly.mem_returns_of_nextPermit among)

theorem held_submit {time : Nat} (started : ∀ run ∈ (pool.submit job).latest, run.start ≤ time) :
    (pool.submit job).running time = (pool.submit job).returns.countP (time < ·) := by
  rw [submit_latest, List.forall_mem_cons] at started
  rcases started with ⟨last, earlier⟩
  have perm := insertTime_perm (pool.startOf job + job.length) pool.nextPermit.2
  rw [running_submit, orderly.held time earlier, submit_returns, perm.countP_eq,
    List.countP_cons, orderly.countP_nextPermit last]
  simp only [Run.isOngoing, Run.stop, last, decide_true, Bool.true_and]
  rfl

theorem limited_submit (inOrder : ∀ run ∈ pool.latest, run.job.submitted ≤ job.submitted)
    (time : Nat) : (pool.submit job).running time ≤ pool.concurrency := by
  by_cases started : pool.startOf job ≤ time
  · have all : ∀ run ∈ (pool.submit job).latest, run.start ≤ time := by
      rw [submit_latest, List.forall_mem_cons]
      refine ⟨started, fun run member => ?_⟩
      exact Nat.le_trans (orderly.start_le_startOf member (inOrder run member)) started
    have perm := insertTime_perm (pool.startOf job + job.length) pool.nextPermit.2
    rw [orderly.held_submit all, submit_returns]
    exact Nat.le_trans List.countP_le_length (perm.length_eq ▸ orderly.length_nextPermit.1)
  · rw [running_submit]
    simpa [Run.isOngoing, started] using orderly.limited time

theorem busy_submit (inOrder : ∀ run ∈ pool.latest, run.job.submitted ≤ job.submitted)
    (time : Nat) : ∀ run ∈ (pool.submit job).latest, run.IsWaiting time →
      (pool.submit job).running time = pool.concurrency := by
  intro run member waiting
  rcases waiting with ⟨submitted, notStarted⟩
  rw [submit_latest] at member
  -- The new job does not go on while a job waits, since none overtakes another.
  have notYet : time < pool.startOf job := by
    rcases List.mem_cons.mp member with equal | member
    · subst equal
      exact notStarted
    · exact Nat.lt_of_lt_of_le notStarted (orderly.start_le_startOf member (inOrder run member))
  rw [running_submit]
  simp only [Run.isOngoing, Nat.not_le_of_lt notYet, decide_false, Bool.false_and,
    Bool.false_eq_true, if_false, Nat.add_zero]
  rcases List.mem_cons.mp member with equal | member
  · subst equal
    rcases orderly.delayed_startOf (Nat.lt_of_le_of_lt submitted notYet) with ⟨full, later⟩
    by_cases others : ∀ run ∈ pool.latest, run.start ≤ time
    · rw [orderly.held time others, ← full, List.countP_eq_length]
      intro back member
      exact decide_eq_true (Nat.lt_of_lt_of_le notYet (later back member))
    · simp only [not_forall, Nat.not_le] at others
      rcases others with ⟨other, member, waits⟩
      exact orderly.busy time other member ⟨Nat.le_trans (inOrder other member) submitted, waits⟩
  · exact orderly.busy time run member ⟨submitted, notStarted⟩

/-- Submitting keeps a pool orderly, if jobs are submitted one after another. -/
theorem submit (inOrder : ∀ run ∈ pool.latest, run.job.submitted ≤ job.submitted) :
    (pool.submit job).IsOrderly where
  permits := orderly.permits
  ascending := orderly.ascending_submit
  enough := by
    rw [submit_returns, (insertTime_perm _ _).length_eq]
    exact orderly.length_nextPermit.1
  submitted := by
    rw [submit_latest, List.forall_mem_cons]
    exact ⟨Nat.le_max_left _ _, orderly.submitted⟩
  inTurn := by
    rw [submit_latest, List.pairwise_cons]
    exact ⟨fun run member => orderly.start_le_startOf member (inOrder run member), orderly.inTurn⟩
  delayed := orderly.delayed_submit inOrder
  held _ := orderly.held_submit
  limited := orderly.limited_submit inOrder
  busy := orderly.busy_submit inOrder

end Submission

end IsOrderly

/-! ## All jobs -/

theorem submit_jobs (pool : WorkerPool) (job : Job) :
    (pool.submit job).runs.map Run.job = pool.runs.map Run.job ++ [job] := by
  simp [submit, runs]

/-- Every job is run once, and jobs come in the order of their submission. -/
theorem submitAll_jobs (pool : WorkerPool) (jobs : List Job) :
    (pool.submitAll jobs).runs.map Run.job = pool.runs.map Run.job ++ jobs := by
  induction jobs generalizing pool with
  | nil => simp [submitAll]
  | cons job rest induction =>
      have later := induction (pool.submit job)
      rw [submit_jobs, List.append_assoc] at later
      exact later

theorem ofConcurrency_jobs (concurrency : Nat) (jobs : List Job) :
    ((ofConcurrency concurrency).submitAll jobs).runs.map Run.job = jobs :=
  submitAll_jobs (ofConcurrency concurrency) jobs

theorem submitAll_concurrency (pool : WorkerPool) (jobs : List Job) :
    (pool.submitAll jobs).concurrency = pool.concurrency := by
  induction jobs generalizing pool with
  | nil => rfl
  | cons job rest induction => exact induction (pool.submit job)

theorem submitAll_append (pool : WorkerPool) (front back : List Job) :
    pool.submitAll (front ++ back) = (pool.submitAll front).submitAll back :=
  List.foldl_append

theorem runs_prefix_submitAll (pool : WorkerPool) (jobs : List Job) :
    pool.runs <+: (pool.submitAll jobs).runs := by
  induction jobs generalizing pool with
  | nil => exact List.prefix_rfl
  | cons job rest induction =>
      have first : pool.runs <+: (pool.submit job).runs := by
        rw [runs, runs, submit_latest, List.reverse_cons]
        exact List.prefix_append _ _
      exact first.trans (induction (pool.submit job))

theorem IsOrderly.submitAll (orderly : pool.IsOrderly) {jobs : List Job}
    (inOrder : (pool.runs.map Run.job ++ jobs).Pairwise (·.submitted ≤ ·.submitted)) :
    (pool.submitAll jobs).IsOrderly := by
  induction jobs generalizing pool with
  | nil => exact orderly
  | cons job rest induction =>
      have earlier : ∀ run ∈ pool.latest, run.job.submitted ≤ job.submitted := by
        intro run member
        apply (List.pairwise_append.mp inOrder).2.2
        · exact List.mem_map_of_mem (List.mem_reverse.mpr member)
        · exact List.mem_cons_self
      apply induction (orderly.submit earlier)
      rw [submit_jobs, List.append_assoc]
      exact inOrder

theorem isOrderly_submitAll (concurrency : Nat) {jobs : List Job}
    (inOrder : jobs.Pairwise (·.submitted ≤ ·.submitted)) :
    ((ofConcurrency concurrency).submitAll jobs).IsOrderly :=
  (isOrderly_ofConcurrency concurrency).submitAll inOrder

/-- Runs of jobs in a line before so many servers, none of which rests while a job is in
the line. -/
structure Serves (servers : Nat) (jobs : List Job) (runs : List Run) : Prop where
  jobs : runs.map Run.job = jobs
  submitted : ∀ run ∈ runs, run.job.submitted ≤ run.start
  inTurn : runs.Pairwise (·.start ≤ ·.start)
  limited : ∀ time, runs.countP (Run.isOngoing time) ≤ servers
  busy : ∀ time, ∀ run ∈ runs, run.IsWaiting time → runs.countP (Run.isOngoing time) = servers

theorem IsOrderly.serves (orderly : pool.IsOrderly) :
    Serves pool.concurrency (pool.runs.map Run.job) pool.runs where
  jobs := rfl
  submitted run member := orderly.submitted run (List.mem_reverse.mp member)
  inTurn := List.pairwise_reverse.mpr orderly.inTurn
  limited time := by
    rw [runs, List.countP_reverse]
    exact orderly.limited time
  busy time run member waiting := by
    rw [runs, List.countP_reverse]
    exact orderly.busy time run (List.mem_reverse.mp member) waiting

theorem drained_le_iff {time : Nat} :
    pool.drained ≤ time ↔ ∀ run ∈ pool.runs, run.stop ≤ time := by
  have latest : ∀ runs : List Run,
      runs.foldr (fun run time => max run.stop time) 0 ≤ time ↔ ∀ run ∈ runs, run.stop ≤ time := by
    intro runs
    induction runs with
    | nil => simp
    | cons first rest induction =>
        rw [List.foldr_cons, Nat.max_le, induction, List.forall_mem_cons]
  rw [drained, latest]
  simp [runs]

/-- The time by which some runs are over, and not before. -/
structure IsEndOf (runs : List Run) (time : Nat) : Prop where
  ended : ∀ run ∈ runs, run.stop ≤ time
  last : runs ≠ [] → ∃ run ∈ runs, run.stop = time
  none : runs = [] → time = 0

theorem drained_isEndOf (pool : WorkerPool) : IsEndOf pool.runs pool.drained where
  ended := drained_le_iff.mp (Nat.le_refl _)
  last some := by
    by_contra none
    simp only [not_exists, not_and] at none
    -- If no run stopped at that time, all would be over earlier.
    have earlier : ∀ run ∈ pool.runs, run.stop < pool.drained := fun run member =>
      Nat.lt_of_le_of_ne (drained_le_iff.mp (Nat.le_refl _) run member) (none run member)
    have sooner : pool.drained ≤ pool.drained - 1 :=
      drained_le_iff.mpr fun run member => Nat.le_sub_one_of_lt (earlier run member)
    rcases List.exists_mem_of_ne_nil pool.runs some with ⟨run, member⟩
    have positive := earlier run member
    omega
  none nothing := by
    have atOnce : pool.drained ≤ 0 := drained_le_iff.mpr (by simp [nothing])
    exact Nat.le_zero.mp atOnce

theorem pending_eq (pool : WorkerPool) : pool.pending = (pool.runs.map Run.job).length := by
  simp [pending, runs]

theorem panicked_eq (pool : WorkerPool) :
    pool.panicked = (pool.runs.map Run.job).countP (·.panics) := by
  rw [panicked, runs, List.countP_map, List.countP_reverse]
  rfl

end WorkerPool

end FaultDrill
