import FaultDrill.Proofs.Load.Schedule
import Mathlib.Data.List.Induction
import Mathlib.Data.List.Perm.Subperm
import Mathlib.Logic.Relation

/-!
A pool at work, one step after another. Jobs line up for a permit, hold it while they
run, and give it back when they end or break down; a pool that is drained joins the jobs
that are over. Whatever the order of the steps, the jobs run as the pool has it.
-/

namespace FaultDrill.WorkerPool

/-- A pool at an instant of its work. -/
structure State where
  time : Nat
  /-- Permits that nobody holds. -/
  permits : Nat
  /-- Jobs in line for a permit, those first that asked for it first. -/
  waiting : List Job := []
  /-- Jobs that hold a permit. -/
  running : List Run := []
  /-- Jobs that are over and have not been joined. -/
  unjoined : List Run := []
  isDraining : Bool := false
  /-- How many of the jobs that have been joined had broken down. -/
  panicked : Nat := 0
  /-- All jobs that have started, in the order of their starts. -/
  started : List Run := []

namespace State

def opened (concurrency : Nat) : State := { time := 0, permits := max concurrency 1 }

/-- Jobs submitted and not yet joined. -/
def pending (state : State) : Nat :=
  state.waiting.length + state.running.length + state.unjoined.length

/-- Everything that can happen at this instant has happened. -/
def IsSettled (state : State) : Prop :=
  (state.waiting = [] ∨ state.permits = 0) ∧ ∀ run ∈ state.running, state.time < run.stop

/-- All jobs have been joined, and draining is at its end. -/
def IsDrained (state : State) : Prop := state.isDraining = true ∧ state.pending = 0

def start (state : State) (job : Job) (rest : List Job) (permits : Nat) : State :=
  { state with
    permits
    waiting := rest
    running := ⟨job, state.time⟩ :: state.running
    started := state.started ++ [⟨job, state.time⟩] }

def stop (state : State) (run : Run) (others : List Run) : State :=
  { state with
    permits := state.permits + 1
    running := others
    unjoined := run :: state.unjoined }

end State

/-- What happens at a pool, and the jobs submitted by it. A job that breaks down gives its
permit back like any other. Time passes only when nothing else can happen. -/
inductive Step : State → List Job → State → Prop
  | submit {state job} :
      state.isDraining = false → job.submitted = state.time →
      Step state [job] { state with waiting := state.waiting ++ [job] }
  | start {state job rest permits} :
      state.waiting = job :: rest → state.permits = permits + 1 →
      Step state [] (state.start job rest permits)
  | stop {state run others} :
      state.running.Perm (run :: others) → run.stop = state.time →
      Step state [] (state.stop run others)
  | wait {state} :
      state.IsSettled → Step state [] { state with time := state.time + 1 }
  | drain {state} : Step state [] { state with isDraining := true }
  | join {state run others} :
      state.isDraining = true → state.unjoined.Perm (run :: others) →
      Step state []
        { state with
          unjoined := others
          panicked := state.panicked + if run.job.panics then 1 else 0 }

/-- How far a pool can have come to which some jobs have been submitted. -/
inductive Reaches (concurrency : Nat) : List Job → State → Prop
  | opened : Reaches concurrency [] (.opened concurrency)
  | next {jobs state submitted after} :
      Reaches concurrency jobs state → Step state submitted after →
      Reaches concurrency (jobs ++ submitted) after

variable {concurrency : Nat} {jobs submitted : List Job} {state after : State}

/-! ## Nothing is lost -/

/-- Every job is in one place, and so is every permit. -/
structure Accounts (concurrency : Nat) (jobs : List Job) (state : State) : Prop where
  permits : state.permits + state.running.length = max concurrency 1
  line : state.started.map Run.job ++ state.waiting = jobs
  tasks : ∃ joined, state.started.Perm (state.running ++ (state.unjoined ++ joined)) ∧
    state.panicked = joined.countP (·.job.panics) ∧ (state.isDraining = false → joined = []) ∧
    ∀ run ∈ state.unjoined ++ joined, run.stop ≤ state.time

theorem Accounts.step (accounts : Accounts concurrency jobs state)
    (step : Step state submitted after) : Accounts concurrency (jobs ++ submitted) after := by
  rcases accounts with ⟨permits, line, joined, tasks, panicked, undrained, ended⟩
  cases step with
  | submit notDraining now =>
      refine ⟨permits, ?_, joined, tasks, panicked, undrained, ended⟩
      simp only [← line, List.append_assoc]
  | @start job rest _ first held =>
      refine ⟨?_, ?_, joined, ?_, panicked, undrained, ended⟩
      · simp only [State.start, List.length_cons]
        omega
      · simp [State.start, ← line, first]
      · have moved := (tasks.append_right [⟨job, state.time⟩]).trans List.perm_append_comm
        exact moved
  | @stop run others among now =>
      have length := among.length_eq
      rw [List.length_cons] at length
      refine ⟨?_, ?_, joined, ?_, panicked, undrained, ?_⟩
      · simp only [State.stop]
        omega
      · simpa [State.stop] using line
      · exact tasks.trans ((among.append_right _).trans List.perm_middle.symm)
      · simp only [State.stop, List.cons_append, List.forall_mem_cons]
        exact ⟨Nat.le_of_eq now, ended⟩
  | wait settled =>
      refine ⟨permits, by simpa using line, joined, tasks, panicked, undrained, ?_⟩
      exact fun run member => Nat.le_succ_of_le (ended run member)
  | drain => exact ⟨permits, by simpa using line, joined, tasks, panicked, nofun, ended⟩
  | @join run others draining among =>
      have moved : (state.unjoined ++ joined).Perm (others ++ (run :: joined)) :=
        (among.append_right joined).trans List.perm_middle.symm
      refine ⟨permits, by simpa using line, run :: joined, ?_, ?_, ?_, ?_⟩
      · exact tasks.trans (moved.append_left state.running)
      · simp [panicked, List.countP_cons]
      · exact fun undone => by simp [draining] at undone
      · exact fun run member => ended run (moved.mem_iff.mpr member)

theorem Reaches.accounts (reached : Reaches concurrency jobs state) :
    Accounts concurrency jobs state := by
  induction reached with
  | opened => exact ⟨by simp [State.opened], rfl, [], .nil, rfl, fun _ => rfl, nofun⟩
  | next _ step induction => exact induction.step step

/-! ## Jobs run when the pool says -/

/-- The pool to which those jobs have been submitted that have started. -/
def State.pool (concurrency : Nat) (state : State) : WorkerPool :=
  (ofConcurrency concurrency).submitAll (state.started.map Run.job)

/-- Jobs have started as in the pool, and the next one will. -/
structure Follows (concurrency : Nat) (state : State) : Prop where
  inOrder : (state.started.map Run.job ++ state.waiting).Pairwise (·.submitted ≤ ·.submitted)
  submitted : ∀ job ∈ state.started.map Run.job ++ state.waiting, job.submitted ≤ state.time
  started : (state.pool concurrency).runs = state.started
  ongoing : ∀ run ∈ state.running, state.time ≤ run.stop
  /-- Permits come back when those who hold them stop, or they are back. -/
  returns : ∃ back, (state.pool concurrency).returns.Perm (state.running.map Run.stop ++ back) ∧
    ∀ time ∈ back, time ≤ state.time
  next : ∀ job ∈ state.waiting.head?, state.time ≤ (state.pool concurrency).startOf job

namespace Follows

theorem orderly (follows : Follows concurrency state) : (state.pool concurrency).IsOrderly :=
  isOrderly_submitAll concurrency (List.pairwise_append.mp follows.inOrder).1

theorem pool_concurrency (concurrency : Nat) (state : State) :
    (state.pool concurrency).concurrency = max concurrency 1 :=
  submitAll_concurrency _ _

/-- If a permit is free, the next job takes one that is back. -/
theorem permit_isBack (follows : Follows concurrency state)
    (free : state.running.length < max concurrency 1) :
    (state.pool concurrency).nextPermit.1 ≤ state.time ∧
      ∃ back, (state.pool concurrency).nextPermit.2.Perm (state.running.map Run.stop ++ back) ∧
        ∀ time ∈ back, time ≤ state.time := by
  rcases follows.returns with ⟨back, perm, isBack⟩
  rcases follows.orderly.nextPermit_cases with ⟨_, next⟩ | ⟨soonest, others, returns, full, next⟩
  · rw [next]
    exact ⟨Nat.zero_le _, back, perm, isBack⟩
  · rw [pool_concurrency, perm.length_eq, List.length_append, List.length_map] at full
    have some : back ≠ [] := by
      rintro rfl
      simp only [List.length_nil] at full
      omega
    rcases List.exists_mem_of_ne_nil back some with ⟨other, member⟩
    have early : soonest ≤ other := follows.orderly.soonest_le returns other
      (perm.mem_iff.mpr (List.mem_append_right _ member))
    have bound := isBack other member
    -- A permit that is held comes back now at the soonest, so this one is back all the same.
    have among : soonest ∈ back := by
      have either : soonest ∈ state.running.map Run.stop ++ back :=
        perm.mem_iff.mp (returns ▸ List.mem_cons_self)
      rcases List.mem_append.mp either with held | among
      · rcases List.mem_map.mp held with ⟨run, running, stops⟩
        have ongoing := follows.ongoing run running
        have equal : other = soonest := by omega
        exact equal ▸ member
      · exact among
    rw [next]
    refine ⟨Nat.le_trans early bound, back.erase soonest, ?_, ?_⟩
    · rw [returns] at perm
      have split := (List.perm_cons_erase among).append_left (state.running.map Run.stop)
      exact List.Perm.cons_inv (perm.trans (split.trans List.perm_middle))
    · exact fun time member => isBack time (List.mem_of_mem_erase member)

/-- While all permits are held, the next job does not start. -/
theorem time_lt_startOf (follows : Follows concurrency state)
    (held : state.running.length = max concurrency 1)
    (ongoing : ∀ run ∈ state.running, state.time < run.stop) (job : Job) :
    state.time < (state.pool concurrency).startOf job := by
  rcases follows.returns with ⟨back, perm, _⟩
  have length := perm.length_eq
  have enough := follows.orderly.enough
  rw [List.length_append, List.length_map] at length
  rw [pool_concurrency] at enough
  have none : back = [] := List.eq_nil_of_length_eq_zero (by omega)
  subst none
  rcases follows.orderly.nextPermit_cases with ⟨fresh, _⟩ | ⟨soonest, others, returns, _, next⟩
  · rw [pool_concurrency] at fresh
    omega
  · have member : soonest ∈ state.running.map Run.stop := by
      have either := perm.mem_iff.mp (returns ▸ List.mem_cons_self : soonest ∈ _)
      rwa [List.append_nil] at either
    rcases List.mem_map.mp member with ⟨run, running, stops⟩
    have later := ongoing run running
    rw [startOf, next]
    omega

theorem startOf_eq (follows : Follows concurrency state) {job : Job} {rest : List Job}
    (first : state.waiting = job :: rest) (free : state.running.length < max concurrency 1) :
    (state.pool concurrency).startOf job = state.time := by
  have notBefore := follows.next job (by rw [first]; rfl)
  have submitted := follows.submitted job (by rw [first]; simp)
  have back := (follows.permit_isBack free).1
  rw [startOf] at notBefore ⊢
  omega

theorem start (follows : Follows concurrency state) {job : Job} {rest : List Job} {permits : Nat}
    (first : state.waiting = job :: rest) (free : state.running.length < max concurrency 1) :
    Follows concurrency (state.start job rest permits) := by
  have now := follows.startOf_eq first free
  have line : (state.start job rest permits).started.map Run.job ++ rest =
      state.started.map Run.job ++ state.waiting := by simp [State.start, first]
  have pool : (state.start job rest permits).pool concurrency =
      (state.pool concurrency).submit job := by
    rw [State.pool, State.start, List.map_append, submitAll_append]
    rfl
  have earlier : ∀ run ∈ (state.pool concurrency).latest, run.job.submitted ≤ job.submitted := by
    intro run member
    have among : run ∈ state.started := follows.started ▸ List.mem_reverse.mpr member
    apply (List.pairwise_append.mp follows.inOrder).2.2
    · exact List.mem_map_of_mem among
    · rw [first]
      exact List.mem_cons_self
  rcases follows.permit_isBack free with ⟨_, back, perm, isBack⟩
  constructor
  · exact line ▸ follows.inOrder
  · exact line ▸ follows.submitted
  · rw [pool, runs, submit_latest, List.reverse_cons, now]
    exact congrArg (· ++ [_]) follows.started
  · simp only [State.start, List.forall_mem_cons]
    exact ⟨Nat.le_add_right _ _, follows.ongoing⟩
  · refine ⟨back, ?_, isBack⟩
    rw [pool, submit_returns, now]
    exact (insertTime_perm _ _).trans (perm.cons _)
  · intro second among
    rw [pool]
    -- The second job in line does not overtake the first, which starts now.
    have orderly := follows.orderly.submit earlier
    have inOrder := (List.pairwise_append.mp follows.inOrder).2.1
    rw [first] at inOrder
    have member : ⟨job, state.time⟩ ∈ ((state.pool concurrency).submit job).latest := by
      rw [submit_latest, now]
      exact List.mem_cons_self
    exact orderly.start_le_startOf member
      ((List.pairwise_cons.mp inOrder).1 second (List.mem_of_head? among))

theorem submit (follows : Follows concurrency state) {job : Job}
    (now : job.submitted = state.time) :
    Follows concurrency { state with waiting := state.waiting ++ [job] } := by
  have inOrder : (state.started.map Run.job ++ (state.waiting ++ [job])).Pairwise
      (·.submitted ≤ ·.submitted) := by
    rw [← List.append_assoc, List.pairwise_append]
    refine ⟨follows.inOrder, List.pairwise_singleton _ _, ?_⟩
    intro earlier member last among
    rw [List.mem_singleton.mp among, now]
    exact follows.submitted earlier member
  refine { follows with inOrder := inOrder, submitted := ?_, next := ?_ }
  · intro other member
    rw [← List.append_assoc] at member
    rcases List.mem_append.mp member with earlier | last
    · exact follows.submitted other earlier
    · rw [List.mem_singleton.mp last]
      exact Nat.le_of_eq now
  · intro first member
    cases waiting : state.waiting with
    | nil =>
        simp only [waiting, List.nil_append, List.head?_cons, Option.mem_some_iff] at member
        subst member
        exact now ▸ Nat.le_max_left _ _
    | cons head rest =>
        apply follows.next
        rw [waiting]
        simpa [waiting] using member

theorem stop (follows : Follows concurrency state) {run : Run} {others : List Run}
    (among : state.running.Perm (run :: others)) (now : run.stop = state.time) :
    Follows concurrency (state.stop run others) := by
  rcases follows.returns with ⟨back, perm, isBack⟩
  refine { follows with ongoing := ?_, returns := ⟨state.time :: back, ?_, ?_⟩ }
  · exact fun other member =>
      follows.ongoing other (among.mem_iff.mpr (List.mem_cons_of_mem run member))
  · have moved := (among.map Run.stop).append_right back
    rw [List.map_cons, now] at moved
    exact perm.trans (moved.trans List.perm_middle.symm)
  · exact List.forall_mem_cons.mpr ⟨Nat.le_refl _, isBack⟩

theorem wait (follows : Follows concurrency state)
    (permits : state.permits + state.running.length = max concurrency 1)
    (settled : state.IsSettled) : Follows concurrency { state with time := state.time + 1 } := by
  rcases settled with ⟨nobody, ongoing⟩
  rcases follows.returns with ⟨back, perm, isBack⟩
  refine { follows with submitted := ?_, ongoing := ongoing, returns := ⟨back, perm, ?_⟩, next := ?_ }
  · exact fun job member => Nat.le_succ_of_le (follows.submitted job member)
  · exact fun time member => Nat.le_succ_of_le (isBack time member)
  · intro first member
    rcases nobody with none | held
    · rw [none] at member
      cases member
    · exact follows.time_lt_startOf (by omega) ongoing first

theorem step (follows : Follows concurrency state)
    (permits : state.permits + state.running.length = max concurrency 1)
    (step : Step state submitted after) : Follows concurrency after := by
  cases step with
  | submit _ now => exact follows.submit now
  | start first held => exact follows.start first (by omega)
  | stop among now => exact follows.stop among now
  | wait settled => exact follows.wait permits settled
  | drain => exact { follows with }
  | join _ _ => exact { follows with }

end Follows

theorem Reaches.follows (reached : Reaches concurrency jobs state) : Follows concurrency state := by
  induction reached with
  | opened =>
      exact
        { inOrder := .nil
          submitted := nofun
          started := rfl
          ongoing := nofun
          returns := ⟨[], .nil, nofun⟩
          next := nofun }
  | next reached step induction => exact induction.step reached.accounts.permits step

/-- What has started is what the pool with all jobs begins with. -/
theorem Reaches.started_prefix (reached : Reaches concurrency jobs state) :
    state.started <+: ((ofConcurrency concurrency).submitAll jobs).runs := by
  have begun := runs_prefix_submitAll (state.pool concurrency) state.waiting
  rwa [reached.follows.started, State.pool, ← submitAll_append, reached.accounts.line] at begun

/-! ## There is always a way on -/

/-- Where a pool may come to if no more jobs are submitted. -/
def Leads : State → State → Prop := Relation.ReflTransGen fun before after => Step before [] after

theorem Reaches.leads {final : State} (reached : Reaches concurrency jobs state)
    (leads : Leads state final) : Reaches concurrency jobs final := by
  induction leads with
  | refl => exact reached
  | tail _ step induction =>
      have next := induction.next step
      rwa [List.append_nil] at next

namespace Reaches

theorem exists_settled (reached : Reaches concurrency jobs state) :
    ∃ settled, Leads state settled ∧ settled.IsSettled ∧
      settled.time = state.time ∧ settled.isDraining = state.isDraining := by
  -- A start takes a job out of the line and a stop ends one, so neither goes on for ever.
  induction work : 2 * state.waiting.length + state.running.length using Nat.strongRecOn
    generalizing state with
  | ind work induction =>
      subst work
      by_cases due : ∃ run ∈ state.running, run.stop ≤ state.time
      · rcases due with ⟨run, member, late⟩
        have now := Nat.le_antisymm late (reached.follows.ongoing run member)
        have among := List.perm_cons_erase member
        have length := among.length_eq
        rw [List.length_cons] at length
        have stop := Step.stop among now
        have less : 2 * state.waiting.length + (state.running.erase run).length <
            2 * state.waiting.length + state.running.length := by omega
        rcases induction _ less (reached.leads (.single stop)) rfl with
          ⟨settled, leads, isSettled⟩
        exact ⟨settled, .head stop leads, isSettled⟩
      · simp only [not_exists, not_and, Nat.not_le] at due
        cases waiting : state.waiting with
        | nil => exact ⟨state, .refl, ⟨.inl waiting, due⟩, rfl, rfl⟩
        | cons job rest =>
            cases held : state.permits with
            | zero => exact ⟨state, .refl, ⟨.inr held, due⟩, rfl, rfl⟩
            | succ permits =>
                have start := Step.start waiting held
                have less : 2 * rest.length + (state.running.length + 1) <
                    2 * state.waiting.length + state.running.length := by
                  rw [waiting, List.length_cons]
                  omega
                rcases induction _ less (reached.leads (.single start)) rfl with
                  ⟨settled, leads, isSettled⟩
                exact ⟨settled, .head start leads, isSettled⟩

theorem exists_later (reached : Reaches concurrency jobs state) (elapsed : Nat) :
    ∃ later, Leads state later ∧ later.time = state.time + elapsed ∧
      later.isDraining = state.isDraining := by
  induction elapsed with
  | zero => exact ⟨state, .refl, rfl, rfl⟩
  | succ elapsed induction =>
      rcases induction with ⟨middle, before, elapsed, undrained⟩
      rcases (reached.leads before).exists_settled with ⟨settled, behind, isSettled, time, same⟩
      refine ⟨_, (before.trans behind).tail (.wait isSettled), ?_, same.trans undrained⟩
      simp only
      omega

/-- Jobs can be submitted whenever they come. -/
theorem exists_submitted (inOrder : jobs.Pairwise (·.submitted ≤ ·.submitted)) :
    ∃ state, Reaches concurrency jobs state ∧ state.isDraining = false ∧
      ∀ time, (∀ job ∈ jobs, job.submitted ≤ time) → state.time ≤ time := by
  induction jobs using List.reverseRecOn with
  | nil => exact ⟨_, .opened, rfl, fun _ _ => Nat.zero_le _⟩
  | append_singleton earlier job induction =>
      rcases List.pairwise_append.mp inOrder with ⟨inOrder, _, last⟩
      rcases induction inOrder with ⟨state, reached, undrained, bound⟩
      have early := bound job.submitted fun other member =>
        last other member job List.mem_cons_self
      rcases reached.exists_later (job.submitted - state.time) with ⟨later, leads, time, same⟩
      have now : job.submitted = later.time := by omega
      have submit := Step.submit (same.trans undrained) now
      refine ⟨_, (reached.leads leads).next submit, same.trans undrained, ?_⟩
      intro time allowed
      rw [← now]
      exact allowed job (List.mem_append_right _ List.mem_cons_self)

theorem exists_joined (state : State) (draining : state.isDraining = true)
    (nobody : state.waiting = [] ∧ state.running = []) :
    ∃ final, Leads state final ∧ final.IsDrained ∧ final.time = state.time := by
  induction tasks : state.unjoined generalizing state with
  | nil => exact ⟨state, .refl, ⟨draining, by simp [State.pending, nobody, tasks]⟩, rfl⟩
  | cons run others induction =>
      have join := Step.join draining (.of_eq tasks)
      rcases induction { state with unjoined := others, panicked := _ } draining nobody rfl with
        ⟨final, leads, ended⟩
      exact ⟨final, .head join leads, ended⟩

/-- Draining comes to an end when the last job does. -/
theorem exists_drained (reached : Reaches concurrency jobs state) :
    ∃ final, Leads state final ∧ final.IsDrained ∧
      final.time = max state.time ((ofConcurrency concurrency).submitAll jobs).drained := by
  let drained := ((ofConcurrency concurrency).submitAll jobs).drained
  rcases reached.exists_later (drained - state.time) with ⟨later, before, time, _⟩
  have reached := reached.leads before
  rcases reached.exists_settled with ⟨settled, behind, ⟨nobody, ongoing⟩, same, _⟩
  have reached := reached.leads behind
  have accounts := reached.accounts
  -- By now all are over that have started, and nobody waits where all permits are free.
  have running : settled.running = [] := by
    apply List.eq_nil_iff_forall_not_mem.mpr
    intro run member
    rcases accounts.tasks with ⟨joined, tasks, _⟩
    have started := reached.started_prefix.mem (tasks.mem_iff.mpr (List.mem_append_left _ member))
    have stopped : run.stop ≤ drained := drained_le_iff.mp (Nat.le_refl _) run started
    have later := ongoing run member
    omega
  have waiting : settled.waiting = [] := by
    have permits := accounts.permits
    rw [running, List.length_nil] at permits
    exact nobody.resolve_right (by omega)
  let draining : State := { settled with isDraining := true }
  rcases exists_joined draining rfl ⟨waiting, running⟩ with ⟨final, joins, isDrained, ended⟩
  refine ⟨final, ((before.trans behind).tail .drain).trans joins, isDrained, ?_⟩
  have now : draining.time = state.time + (drained - state.time) := same.trans time
  rw [ended, now]
  omega

end Reaches

/-! ## The pool at work -/

/-- What can be said of a pool at work: where it has come to among the runs of the pool
that all jobs have been submitted to, and how it can go on. -/
structure IsAtWork (concurrency : Nat) (jobs : List Job) (pool : WorkerPool) (state : State) :
    Prop where
  permits : state.permits + state.running.length = max concurrency 1
  line : state.started.map Run.job ++ state.waiting = jobs
  started : state.started <+: pool.runs
  busy : state.IsSettled → state.waiting ≠ [] → state.running.length = max concurrency 1
  /-- Until it is drained, jobs can be submitted at any time, and none has been joined. -/
  accepting : state.isDraining = false → state.pending = jobs.length ∧
    ∀ job, job.submitted = state.time → ∃ after, Step state [job] after ∧
      after.time = state.time ∧ after.pending = jobs.length + 1
  drains : ∃ final, Leads state final ∧ final.IsDrained ∧ final.time = max state.time pool.drained
  drained : state.IsDrained →
    state.started = pool.runs ∧ state.panicked = pool.panicked ∧ pool.drained ≤ state.time

theorem Reaches.started_eq (reached : Reaches concurrency jobs state) (drained : state.IsDrained) :
    state.started = ((ofConcurrency concurrency).submitAll jobs).runs := by
  have waiting : state.waiting = [] := by
    have none := drained.2
    rw [State.pending] at none
    exact List.eq_nil_of_length_eq_zero (by omega)
  have line := reached.accounts.line
  rw [waiting, List.append_nil] at line
  rw [← line]
  exact reached.follows.started.symm

theorem Reaches.pending_eq (reached : Reaches concurrency jobs state)
    (undrained : state.isDraining = false) : state.pending = jobs.length := by
  rcases reached.accounts with ⟨_, line, joined, tasks, _, none, _⟩
  have length := tasks.length_eq
  rw [none undrained, List.append_nil, List.length_append] at length
  rw [← line, List.length_append, List.length_map, State.pending]
  omega

theorem Reaches.isAtWork (reached : Reaches concurrency jobs state) :
    IsAtWork concurrency jobs ((ofConcurrency concurrency).submitAll jobs) state := by
  have accounts := reached.accounts
  have permits := accounts.permits
  refine
    { permits := permits
      line := accounts.line
      started := reached.started_prefix
      busy := ?_
      accepting := ?_
      drains := reached.exists_drained
      drained := ?_ }
  · rintro ⟨nobody, _⟩ waiting
    have none := nobody.resolve_left waiting
    omega
  · intro undrained
    have pending := reached.pending_eq undrained
    refine ⟨pending, fun job now => ⟨_, .submit undrained now, rfl, ?_⟩⟩
    have later := (reached.next (.submit undrained now)).pending_eq undrained
    rwa [List.length_append] at later
  · intro drained
    have started := reached.started_eq drained
    rcases accounts.tasks with ⟨joined, tasks, panicked, _, ended⟩
    have nothing := drained.2
    rw [State.pending] at nothing
    have running : state.running = [] := List.eq_nil_of_length_eq_zero (by omega)
    have allJoined : state.unjoined = [] := List.eq_nil_of_length_eq_zero (by omega)
    rw [running, allJoined, List.nil_append, List.nil_append] at tasks
    rw [allJoined, List.nil_append] at ended
    refine ⟨started, ?_, ?_⟩
    · rw [panicked, panicked_eq, ← started, List.countP_map]
      exact (tasks.countP_eq _).symm
    · rw [drained_le_iff, ← started]
      exact fun run member => ended run (tasks.mem_iff.mp member)

/-- A pool is a line before so many servers as it has permits, at least one. Each job is
run once and in its turn, and no server rests while a job is in the line, whatever has
broken down; and so it goes in every order of the steps, none of which can keep a job from
being submitted or the pool from being drained. -/
theorem served_in_turn (concurrency : Nat) {jobs : List Job}
    (inOrder : jobs.Pairwise (·.submitted ≤ ·.submitted)) :
    let pool := (ofConcurrency concurrency).submitAll jobs
    Serves (max concurrency 1) jobs pool.runs ∧
      pool.pending = jobs.length ∧ pool.panicked = jobs.countP (·.panics) ∧
      IsEndOf pool.runs pool.drained ∧
      (∃ state, Reaches concurrency jobs state) ∧
      ∀ state, Reaches concurrency jobs state → IsAtWork concurrency jobs pool state := by
  intro pool
  have all : pool.runs.map Run.job = jobs := ofConcurrency_jobs concurrency jobs
  have serves := (isOrderly_submitAll concurrency inOrder).serves
  rw [submitAll_concurrency, ofConcurrency_jobs] at serves
  refine ⟨serves, ?_, ?_, pool.drained_isEndOf, ?_, fun _ => Reaches.isAtWork⟩
  · rw [pool.pending_eq, all]
  · rw [pool.panicked_eq, all]
  · rcases Reaches.exists_submitted inOrder with ⟨state, reached, _⟩
    exact ⟨state, reached⟩

/-- Three jobs in line for one permit, two of which break down. -/
theorem served_in_turn_single :
    let jobs : List Job := [⟨0, 5, true⟩, ⟨2, 5, false⟩, ⟨2, 0, true⟩]
    let pool := (ofConcurrency 0).submitAll jobs
    Serves 1 jobs pool.runs ∧ pool.runs.map (·.start) = [0, 5, 10] ∧
      IsEndOf pool.runs 10 ∧
      ∃ final, Reaches 0 jobs final ∧ final.IsDrained ∧ final.panicked = 2 ∧ 10 ≤ final.time := by
  intro jobs pool
  have inOrder : jobs.Pairwise (·.submitted ≤ ·.submitted) := by decide
  rcases served_in_turn 0 inOrder with
    ⟨serves, _, panicked, isEnd, ⟨state, reached⟩, atWork⟩
  rcases (atWork state reached).drains with ⟨final, leads, drained, _⟩
  have reached := reached.leads leads
  rcases (atWork final reached).drained drained with ⟨_, joined, late⟩
  refine ⟨serves, by decide, isEnd, final, reached, drained, ?_, late⟩
  rw [joined, panicked]
  rfl

end FaultDrill.WorkerPool
