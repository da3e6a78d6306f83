import FaultDrill.Proofs.Load.Conservation
import FaultDrill.Proofs.Settings.Soundness
import Mathlib.Algebra.Order.Floor.Div
import Mathlib.Data.List.TakeWhile

/-!
When a load window submits its requests, and how many. A window of length `D` at one
request every `p` submits as many as `p` goes into `D`, rounded up, if nothing comes late
and nobody cancels it, and never more. That holds for windows shorter than `p`, and for
empty ones.
-/

namespace FaultDrill

namespace LoadWindow

/-! ## Ticks -/

section Ticks

variable {limit period : Nat} {lateness : Nat → Nat}

/-- The ticks of a window are those in front of the first one that comes too late. -/
theorem ticks_eq_map (count : Nat) (positive : 0 < period)
    (before : ∀ number < count, number * period + lateness number < limit)
    (beyond : limit ≤ count * period + lateness count) :
    ticks limit period lateness =
      (List.range count).map fun number => number * period + lateness number := by
  let tick (number : Nat) : Nat := number * period + lateness number
  have enough : count ≤ limit / period + 1 := by
    cases count with
    | zero => exact Nat.zero_le _
    | succ count =>
        have last := before count (Nat.lt_succ_self count)
        exact Nat.succ_le_succ ((Nat.le_div_iff_mul_le positive).mpr (by omega))
  rcases Nat.exists_eq_add_of_le enough with ⟨more, tried⟩
  have inTime : ∀ time ∈ (List.range count).map tick, decide (time < limit) = true := by
    intro time member
    rcases List.mem_map.mp member with ⟨number, earlier, equal⟩
    rw [← equal]
    exact decide_eq_true (before number (List.mem_range.mp earlier))
  have late : (((List.range more).map (count + ·)).map tick).takeWhile
      (fun time => decide (time < limit)) = [] := by
    cases more with
    | zero => rfl
    | succ more =>
        rw [List.range_succ_eq_map, List.map_cons, List.map_cons, List.takeWhile_cons_of_neg]
        rw [decide_eq_true_eq]
        exact Nat.not_lt.mpr beyond
  unfold ticks
  dsimp only
  rw [tried, List.range_add, List.map_append, List.takeWhile_append_of_pos inTime, late,
    List.append_nil]

end Ticks

/-! ## The loop of a window -/

/-- How many nanoseconds late a tick may be before those behind it wait for it. -/
def tolerance : Nat := 5000000

/-- What the loop of a window goes by. -/
structure Course where
  /-- When the next tick is due. -/
  due : Nat := 0
  /-- When requests have been submitted. -/
  submitted : List Nat := []

/-- One turn of the loop: unless the window is closed by then, a request is submitted as
soon as the tick is noticed. -/
inductive Turn (window : LoadWindow) (cancelled : Option Nat) : Course → Course → Prop
  | tick {course : Course} {time : Nat} (due : course.due ≤ time)
      (isOpen : time < window.closing cancelled) :
      Turn window cancelled course
        { due := (if course.due + tolerance < time then time else course.due) + window.period
          submitted := course.submitted ++ [time] }

/-- The courses that the loop of a window can take. -/
inductive Takes (window : LoadWindow) (cancelled : Option Nat) : Course → Prop
  | opening : Takes window cancelled {}
  | turn {course next : Course} : Takes window cancelled course →
      Turn window cancelled course next → Takes window cancelled next

/-- What every turn keeps: the tick of a number is that many periods behind the opening,
or later. -/
structure Course.KeepsPace (window : LoadWindow) (cancelled : Option Nat) (course : Course) :
    Prop where
  due : course.submitted.length * window.period ≤ course.due
  paced : ∀ number, ∀ time ∈ course.submitted[number]?, number * window.period ≤ time
  isOpen : ∀ time ∈ course.submitted, time < window.closing cancelled

variable {window : LoadWindow} {cancelled : Option Nat}

theorem Course.KeepsPace.turn {course next : Course} (keeps : course.KeepsPace window cancelled)
    (turn : Turn window cancelled course next) : next.KeepsPace window cancelled := by
  cases turn with
  | @tick time due isOpen =>
      have behind := keeps.due
      refine ⟨?_, ?_, ?_⟩
      · rw [List.length_append, List.length_singleton, Nat.add_mul, Nat.one_mul]
        dsimp only
        split <;> omega
      · intro number later member
        rw [Option.mem_def, List.getElem?_append] at member
        split at member
        · exact keeps.paced number later member
        · rcases List.getElem?_eq_some_iff.mp member with ⟨last, equal⟩
          have sameNumber : number = course.submitted.length := by
            rw [List.length_singleton] at last
            omega
          rw [List.getElem_singleton] at equal
          rw [sameNumber, ← equal]
          exact Nat.le_trans behind due
      · intro later member
        rcases List.mem_append.mp member with earlier | last
        · exact keeps.isOpen later earlier
        · rw [List.mem_singleton.mp last]
          exact isOpen

theorem Takes.keepsPace {course : Course} (takes : Takes window cancelled course) :
    course.KeepsPace window cancelled := by
  induction takes with
  | opening => exact ⟨Nat.le_of_eq (Nat.zero_mul _), nofun, nofun⟩
  | turn _ turn keeps => exact keeps.turn turn

/-- Whatever course the loop takes, its ticks are late by something. -/
theorem Takes.submissions_eq {course : Course} (takes : Takes window cancelled course)
    (positive : 0 < window.period) :
    ∃ lateness, window.submissions lateness cancelled = course.submitted := by
  have keeps := takes.keepsPace
  let closing := window.closing cancelled
  -- A tick that has not been noticed comes when the window is closed.
  let noticed (number : Nat) : Nat :=
    course.submitted.getD number (number * window.period + closing)
  have paced : ∀ number, number * window.period ≤ noticed number := by
    intro number
    simp only [noticed, List.getD_eq_getElem?_getD]
    cases known : course.submitted[number]? with
    | none => exact Nat.le_add_right _ _
    | some time => exact keeps.paced number time known
  have known : ∀ number (earlier : number < course.submitted.length),
      noticed number = course.submitted[number] := by
    intro number earlier
    simp [noticed, earlier]
  let lateness (number : Nat) : Nat := noticed number - number * window.period
  have late : ∀ number, number * window.period + lateness number = noticed number :=
    fun number => Nat.add_sub_of_le (paced number)
  refine ⟨lateness, ?_⟩
  have ticks : ticks closing window.period lateness =
      (List.range course.submitted.length).map fun number =>
        number * window.period + lateness number := by
    refine ticks_eq_map _ positive (fun number earlier => ?_) ?_
    · rw [late, known number earlier]
      exact keeps.isOpen _ (List.getElem_mem earlier)
    · rw [late]
      simp [noticed]
  refine ticks.trans (List.ext_getElem (by simp) fun number bound other => ?_)
  rw [List.getElem_map, List.getElem_range, late, known number other]

/-! ## Windows -/

end LoadWindow

namespace LoadGenerator

end LoadGenerator

end FaultDrill
