import FaultDrill.Accumulator
import FaultDrill.Proofs.Load.Reordering
import Mathlib.Algebra.BigOperators.Group.List.Basic
import Mathlib.Data.List.Forall2

/-!
Workers that report to one accumulator at the same time. Submissions are counted without
a lock. A record needs the lock, and so does a snapshot, which takes it first and reads
the number of submissions last, so that submissions can still arrive in between.
-/

namespace FaultDrill.Accumulator

/-! ## Acts -/

/-- What a worker does to the accumulator. -/
inductive Act where
  | submit
  | record (outcome : Outcome)

namespace Act

def isSubmission : Act → Bool
  | submit => true
  | record _ => false

def outcome : Act → Option Outcome
  | submit => none
  | record outcome => some outcome

end Act

def submissions (acts : List Act) : Nat := acts.countP Act.isSubmission

/-- The outcomes that are recorded, in the order of their records. -/
def reported (acts : List Act) : List Outcome := acts.filterMap Act.outcome

/-- Each outcome of a worker is recorded after a submission of its own. -/
def SubmitsFirst (worker : List Act) : Prop :=
  ∀ done rest, worker = done ++ rest → (reported done).length ≤ submissions done

section Acts

variable {acts more same : List Act}

theorem submissions_append : submissions (acts ++ more) = submissions acts + submissions more :=
  List.countP_append

theorem reported_append : reported (acts ++ more) = reported acts ++ reported more :=
  List.filterMap_append

theorem submissions_eq (perm : acts.Perm same) : submissions acts = submissions same :=
  perm.countP_eq _

theorem reported_perm (perm : acts.Perm same) : (reported acts).Perm (reported same) :=
  perm.filterMap _

/-- A worker that makes one request submits first. -/
theorem submitsFirst_request (outcome : Outcome) :
    SubmitsFirst [.submit, .record outcome] := by
  intro done rest parts
  rcases done with _ | ⟨first, _ | ⟨second, more⟩⟩
  · exact Nat.le_refl _
  · cases (List.cons.inj parts).1
    decide
  · rw [List.cons_append, List.cons.injEq, List.cons_append, List.cons.injEq] at parts
    rcases parts with ⟨rfl, rfl, nothing⟩
    rw [(List.append_eq_nil_iff.mp nothing.symm).1]
    exact Nat.le_refl _

theorem SubmitsFirst.suffix {worker rest : List Act} (first : SubmitsFirst worker)
    (suffix : rest <:+ worker) :
    (reported worker).length + submissions rest ≤
      submissions worker + (reported rest).length := by
  rcases suffix with ⟨done, rfl⟩
  have behind := first done rest rfl
  rw [reported_append, submissions_append, List.length_append]
  omega

/-- What is left to do of workers that submit first has no more submissions ahead of its
records than all their work. -/
theorem SubmitsFirst.flatten {left workers : List (List Act)}
    (first : ∀ worker ∈ workers, SubmitsFirst worker)
    (suffixes : List.Forall₂ (· <:+ ·) left workers) :
    (reported workers.flatten).length + submissions left.flatten ≤
      submissions workers.flatten + (reported left.flatten).length := by
  induction suffixes with
  | nil => exact Nat.le_refl _
  | cons suffix _ induction =>
      rw [List.forall_mem_cons] at first
      have one := first.1.suffix suffix
      have others := induction first.2
      simp only [List.flatten_cons, reported_append, submissions_append, List.length_append]
      omega

end Acts

/-! ## Interleavings -/

/-- What others can see happen: an act of some worker, a snapshot that takes the lock,
and a snapshot that is read and gives the lock back. -/
inductive Event where
  | act (act : Act)
  | lock
  | snapshot (stats : LoadStats)

def Event.act? : Event → Option Act
  | .act done => some done
  | .lock => none
  | .snapshot _ => none

def acts (events : List Event) : List Act := events.filterMap Event.act?

structure Config where
  accumulator : Accumulator
  /-- A snapshot has the lock. -/
  isLocked : Bool
  /-- What each worker has left to do. -/
  left : List (List Act)

inductive Step : Config → Event → Config → Prop
  | submit (accumulator isLocked before rest behind) :
      Step ⟨accumulator, isLocked, before ++ (.submit :: rest) :: behind⟩ (.act .submit)
        ⟨accumulator.submit, isLocked, before ++ rest :: behind⟩
  | record (accumulator outcome before rest behind) :
      Step ⟨accumulator, false, before ++ (.record outcome :: rest) :: behind⟩
        (.act (.record outcome))
        ⟨accumulator.record outcome, false, before ++ rest :: behind⟩
  | lock (accumulator left) :
      Step ⟨accumulator, false, left⟩ .lock ⟨accumulator, true, left⟩
  | snapshot (accumulator left) :
      Step ⟨accumulator, true, left⟩ (.snapshot accumulator.snapshot) ⟨accumulator, false, left⟩

/-- The events so far of some workers that started with nothing reported. -/
inductive Interleaving (workers : List (List Act)) : List Event → Config → Prop
  | start : Interleaving workers [] ⟨{}, false, workers⟩
  | step {events config event next} (earlier : Interleaving workers events config)
      (step : Step config event next) : Interleaving workers (events ++ [event]) next

def Config.IsFinished (config : Config) : Prop := ∀ worker ∈ config.left, worker = []

/-- A snapshot took the lock after the `earlier` events, and nothing but submissions
happened since. -/
def LockedSince (earlier events : List Event) : Prop :=
  ∃ between, events = earlier ++ .lock :: between ∧ ∀ event ∈ between, event = .act .submit

/-! ## What every interleaving keeps -/

/-- The accumulator holds what was done, and what was not done is left. -/
structure Keeps (workers : List (List Act)) (events : List Event) (config : Config) : Prop where
  submitted : config.accumulator.submitted = submissions (acts events)
  outcomes : config.accumulator.outcomes = reported (acts events)
  work : (acts events ++ config.left.flatten).Perm workers.flatten
  suffixes : List.Forall₂ (· <:+ ·) config.left workers
  lock : config.isLocked → ∃ earlier, LockedSince earlier events

variable {workers : List (List Act)} {earlier events : List Event} {config next : Config}

theorem acts_append (events more : List Event) : acts (events ++ more) = acts events ++ acts more :=
  List.filterMap_append

/-- A worker has done the first act that it had left. -/
theorem work_next {done : List Act} {act : Act} {rest : List Act}
    {before behind : List (List Act)}
    (work : (done ++ (before ++ (act :: rest) :: behind).flatten).Perm workers.flatten) :
    ((done ++ [act]) ++ (before ++ rest :: behind).flatten).Perm workers.flatten := by
  apply List.Perm.trans _ work
  simp only [List.flatten_append, List.flatten_cons, List.append_assoc, List.cons_append,
    List.nil_append]
  exact List.Perm.append_left done List.perm_middle.symm

theorem suffixes_next {act : Act} {rest : List Act} {before behind : List (List Act)}
    (suffixes : List.Forall₂ (· <:+ ·) (before ++ (act :: rest) :: behind) workers) :
    List.Forall₂ (· <:+ ·) (before ++ rest :: behind) workers := by
  induction before generalizing workers with
  | nil =>
      rcases List.forall₂_cons_left_iff.mp suffixes with ⟨worker, others, suffix, later, rfl⟩
      exact .cons ((List.suffix_cons act rest).trans suffix) later
  | cons first before induction =>
      rcases List.forall₂_cons_left_iff.mp suffixes with ⟨worker, others, suffix, later, rfl⟩
      exact .cons suffix (induction later)

theorem LockedSince.submit (locked : LockedSince earlier events) :
    LockedSince earlier (events ++ [.act .submit]) := by
  rcases locked with ⟨between, rfl, submissions⟩
  refine ⟨between ++ [.act .submit], by simp, ?_⟩
  intro event member
  rcases List.mem_append.mp member with old | new
  · exact submissions event old
  · exact List.mem_singleton.mp new

theorem Keeps.step (keeps : Keeps workers events config) {event : Event}
    (step : Step config event next) : Keeps workers (events ++ [event]) next := by
  rcases keeps with ⟨submitted, outcomes, work, suffixes, lock⟩
  cases step with
  | submit accumulator isLocked before rest behind =>
      refine ⟨?_, ?_, ?_, suffixes_next suffixes, fun locked => ?_⟩
      · rw [acts_append, submissions_append, ← submitted]
        rfl
      · rw [acts_append, reported_append, ← outcomes]
        exact (List.append_nil _).symm
      · rw [acts_append]
        exact work_next work
      · rcases lock locked with ⟨earlier, since⟩
        exact ⟨earlier, since.submit⟩
  | record accumulator outcome before rest behind =>
      refine ⟨?_, ?_, ?_, suffixes_next suffixes, fun locked => absurd locked Bool.false_ne_true⟩
      · rw [acts_append, submissions_append, ← submitted]
        rfl
      · rw [acts_append, reported_append, ← outcomes]
        exact outcomes_record accumulator outcome
      · rw [acts_append]
        exact work_next work
  | lock accumulator left =>
      have same : acts (events ++ [.lock]) = acts events := by
        rw [acts_append]
        exact List.append_nil _
      refine ⟨same ▸ submitted, same ▸ outcomes, same ▸ work, suffixes, fun _ => ?_⟩
      exact ⟨events, [], rfl, by simp⟩
  | snapshot accumulator left =>
      have same : acts (events ++ [.snapshot accumulator.snapshot]) = acts events := by
        rw [acts_append]
        exact List.append_nil _
      exact ⟨same ▸ submitted, same ▸ outcomes, same ▸ work, suffixes,
        fun locked => absurd locked Bool.false_ne_true⟩

theorem Interleaving.keeps (interleaving : Interleaving workers events config) :
    Keeps workers events config := by
  induction interleaving with
  | start =>
      exact ⟨rfl, rfl, List.Perm.refl _, List.forall₂_refl _,
        fun locked => absurd locked Bool.false_ne_true⟩
  | step _ step induction => exact induction.step step

/-! ## Snapshots -/

namespace Keeps

theorem snapshot_eq (keeps : Keeps workers events config) :
    config.accumulator.snapshot =
      .ofOutcomes (submissions (acts events)) (reported (acts events)) := by
  rw [snapshot, keeps.submitted, keeps.outcomes]

/-- The work that is left at any moment has as many submissions ahead of its records as
were done. -/
theorem reported_le (keeps : Keeps workers events config)
    (first : ∀ worker ∈ workers, SubmitsFirst worker) :
    (reported (acts events)).length ≤ submissions (acts events) := by
  have ahead := SubmitsFirst.flatten first keeps.suffixes
  have allReported := (reported_perm keeps.work).length_eq
  have allSubmitted := submissions_eq keeps.work
  rw [reported_append, List.length_append] at allReported
  rw [submissions_append] at allSubmitted
  omega

theorem work_of_isFinished (keeps : Keeps workers events config) (finished : config.IsFinished) :
    (acts events).Perm workers.flatten := by
  have nothing : config.left.flatten = [] := List.flatten_eq_nil_iff.mpr finished
  simpa only [nothing, List.append_nil] using keeps.work

end Keeps

theorem LockedSince.reported_eq (locked : LockedSince earlier events) :
    reported (acts events) = reported (acts earlier) := by
  rcases locked with ⟨between, rfl, submissions⟩
  have none : reported (acts between) = [] := by
    apply List.filterMap_eq_nil_iff.mpr
    intro act member
    rcases List.mem_filterMap.mp member with ⟨event, inBetween, same⟩
    rw [submissions event inBetween] at same
    cases same
    rfl
  rw [acts_append, reported_append]
  exact (congrArg _ none).trans (List.append_nil _)

/-- A snapshot that is read after these events has counted their submissions, and holds
the outcomes recorded before it took the lock. -/
structure IsSnapshotOf (workers : List (List Act)) (events : List Event) (stats : LoadStats) :
    Prop where
  consistent : ∃ earlier, LockedSince earlier events ∧
    stats = .ofOutcomes (submissions (acts events)) (reported (acts earlier))
  completed_le : (∀ worker ∈ workers, SubmitsFirst worker) → stats.completed ≤ stats.submitted

theorem Keeps.isSnapshotOf (keeps : Keeps workers events config) (locked : config.isLocked) :
    IsSnapshotOf workers events config.accumulator.snapshot := by
  constructor
  · rcases keeps.lock locked with ⟨earlier, since⟩
    exact ⟨earlier, since, since.reported_eq ▸ keeps.snapshot_eq⟩
  · intro first
    rw [keeps.snapshot_eq, LoadStats.completed_ofOutcomes]
    exact keeps.reported_le first

theorem Interleaving.isSnapshotOf (interleaving : Interleaving workers events config)
    {front back : List Event} {stats : LoadStats}
    (read : events = front ++ .snapshot stats :: back) : IsSnapshotOf workers front stats := by
  induction interleaving generalizing back with
  | start => exact absurd read.symm (by simp)
  | @step events config event next interleaving step induction =>
      rcases List.eq_nil_or_concat back with rfl | ⟨back, last, rfl⟩
      · rcases List.append_inj' read rfl with ⟨rfl, same⟩
        cases (List.cons.inj same).1
        cases step
        exact interleaving.keeps.isSnapshotOf rfl
      · rw [List.concat_eq_append, ← List.cons_append, ← List.append_assoc] at read
        exact induction (List.append_inj' read rfl).1

theorem Interleaving.final (interleaving : Interleaving workers events config)
    (finished : config.IsFinished) :
    config.accumulator.snapshot =
      .ofOutcomes (submissions workers.flatten) (reported workers.flatten) := by
  have work := interleaving.keeps.work_of_isFinished finished
  rw [interleaving.keeps.snapshot_eq, submissions_eq work,
    LoadStats.ofOutcomes_eq _ (reported_perm work)]

/-- However the steps of workers and snapshots are interleaved, a snapshot is that of the
number it read and of the outcomes recorded before it took the lock, each of them once, and
the end depends on what was reported alone. -/
theorem snapshots_consistent (interleaving : Interleaving workers events config) :
    (∀ front stats back, events = front ++ .snapshot stats :: back →
      IsSnapshotOf workers front stats) ∧
    (config.IsFinished →
      config.accumulator.snapshot =
        .ofOutcomes (submissions workers.flatten) (reported workers.flatten) ∧
      ∀ others final, Interleaving workers others final → final.IsFinished →
        final.accumulator.snapshot = config.accumulator.snapshot) := by
  refine ⟨fun front stats back read => interleaving.isSnapshotOf read, fun finished => ?_⟩
  have whole := interleaving.final finished
  refine ⟨whole, fun others final other otherFinished => ?_⟩
  rw [other.final otherFinished, whole]

/-- Of two workers, the second submits while a snapshot has the lock. -/
theorem snapshots_consistent_pair :
    ∃ (workers : List (List Act)) (front back : List Event) (stats : LoadStats) (config : Config),
      Interleaving workers (front ++ .snapshot stats :: back) config ∧ config.IsFinished ∧
      (∀ worker ∈ workers, SubmitsFirst worker) ∧
      IsSnapshotOf workers front stats ∧ stats.submitted = 2 ∧ stats.completed = 1 ∧
      config.accumulator.snapshot =
        .ofOutcomes 2 [.transportFailure, .ofResponse 200 12.5] := by
  let success : Outcome := .ofResponse 200 12.5
  let front : List Event :=
    [.act .submit, .act (.record .transportFailure), .lock, .act .submit]
  have first := Interleaving.start.step (.submit {} false []
    [.record .transportFailure] [[.submit, .record success]])
  have recorded := first.step (.record _ .transportFailure [] [] [[.submit, .record success]])
  have locked := recorded.step (.lock _ _)
  have second := locked.step (.submit _ true [[]] [.record success] [])
  have read := second.step (.snapshot _ _)
  have done := read.step (.record _ success [[]] [] [])
  have consistent := snapshots_consistent done
  have finished : ∀ worker ∈ ([[], []] : List (List Act)), worker = [] := by simp
  have submitFirst : ∀ worker ∈ [[.submit, .record .transportFailure], [.submit, .record success]],
      SubmitsFirst worker := by simp [submitsFirst_request]
  exact ⟨_, front, [.act (.record success)], .ofOutcomes 2 [.transportFailure], _, done, finished,
    submitFirst, consistent.1 front _ _ rfl, rfl, LoadStats.completed_ofOutcomes 2 [.transportFailure],
    (consistent.2 finished).1⟩

end FaultDrill.Accumulator
