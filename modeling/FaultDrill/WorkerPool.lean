/-!
A pool that runs jobs on a limited number of permits. Submitting never waits: a
job is queued at once and starts when it is its turn and a permit is free. Times
are counted from the opening of the pool.
-/

namespace FaultDrill

/-- A piece of work. -/
structure Job where
  submitted : Nat
  length : Nat
  /-- Whether the job breaks down at its end. -/
  panics : Bool := false
  deriving Repr, DecidableEq

/-- A job and the time of its start. -/
structure Run where
  job : Job
  start : Nat
  deriving Repr, DecidableEq

namespace Run

/-- The time at which the permit is back, whether or not the job broke down. -/
def stop (run : Run) : Nat := run.start + run.job.length

/-- Whether the job holds a permit at a time. -/
def isOngoing (time : Nat) (run : Run) : Bool := run.start ≤ time && time < run.stop

end Run

structure WorkerPool where
  concurrency : Nat
  /-- When the permits handed out so far come back, the soonest first. -/
  returns : List Nat := []
  /-- The runs of all jobs submitted, the latest first. -/
  latest : List Run := []

namespace WorkerPool

/-- A pool has at least one permit. -/
def ofConcurrency (concurrency : Nat) : WorkerPool := { concurrency := max concurrency 1 }

/-- Puts a time into its place among ascending times. -/
def insertTime (time : Nat) : List Nat → List Nat
  | [] => [time]
  | first :: rest => if time ≤ first then time :: first :: rest else first :: insertTime time rest

/-- The time at which the next job can have a permit, and the other permits. -/
def nextPermit (pool : WorkerPool) : Nat × List Nat :=
  match pool.returns with
  | [] => (0, [])
  | soonest :: others =>
      if pool.returns.length < pool.concurrency then (0, pool.returns) else (soonest, others)

/-- Queues a job. It takes the first permit that is free, behind all jobs
submitted before. -/
def submit (pool : WorkerPool) (job : Job) : WorkerPool :=
  let (free, others) := pool.nextPermit
  let run : Run := ⟨job, max job.submitted free⟩
  { pool with returns := insertTime run.stop others, latest := run :: pool.latest }

/-- Jobs submitted and not yet joined; jobs are joined when the pool is drained. -/
def pending (pool : WorkerPool) : Nat := pool.latest.length

def submitAll (pool : WorkerPool) (jobs : List Job) : WorkerPool := jobs.foldl submit pool

/-- The runs in the order of submission. -/
def runs (pool : WorkerPool) : List Run := pool.latest.reverse

/-! Draining waits for every job. -/

/-- The time at which the last job has ended. -/
def drained (pool : WorkerPool) : Nat := pool.latest.foldr (fun run time => max run.stop time) 0

/-- How many jobs broke down. -/
def panicked (pool : WorkerPool) : Nat := pool.latest.countP (·.job.panics)

/-- How many jobs hold a permit at a time. -/
def running (pool : WorkerPool) (time : Nat) : Nat := pool.latest.countP (Run.isOngoing time)

/-- How many earlier runs still go on when each run starts, that run included.
The runs come latest first. -/
def crowds : List Run → List Nat
  | [] => []
  | run :: earlier => (earlier.countP (run.start < ·.stop) + 1) :: crowds earlier

/-- The most jobs that were at work at once. -/
def peak (pool : WorkerPool) : Nat := (crowds pool.latest).foldr max 0

/-- Two jobs on one permit: the second starts when the first has ended. -/
example : ((ofConcurrency 0).submitAll [⟨0, 5, true⟩, ⟨2, 5, false⟩]).runs.map (·.start) = [0, 5] := by
  decide

end WorkerPool

end FaultDrill
