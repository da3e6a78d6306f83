/-!
Steps that may fail. What comes behind a step is reached exactly if the step succeeds.
-/

namespace FaultDrill

section Steps

variable {ε ε' α β : Type} {first : Except ε α} {next : α → Except ε β}

theorem bind_eq_ok {result : β} :
    (first >>= next) = .ok result ↔ ∃ value, first = .ok value ∧ next value = .ok result := by
  cases first <;> simp [bind, Except.bind]

theorem mapError_eq_ok {change : ε → ε'} {result : α} :
    first.mapError change = .ok result ↔ first = .ok result := by
  cases first with
  | error _ => exact iff_of_false nofun nofun
  | ok value =>
      change Except.ok value = .ok result ↔ _
      simp only [Except.ok.injEq]

theorem map_eq_ok {change : α → β} {result : β} :
    first.map change = .ok result ↔ ∃ value, first = .ok value ∧ change value = result := by
  cases first <;> simp [Except.map]

theorem pure_isOk_iff {make : α → β} :
    (∃ result, (do return make (← first)) = Except.ok result) ↔ ∃ value, first = .ok value := by
  cases first <;> simp [bind, Except.bind, pure, Except.pure]

theorem eq_ok_of_isOk {check : Except ε Unit} (isOk : check.isOk = true) : check = .ok () := by
  cases check with
  | error _ => cases isOk
  | ok _ => rfl

theorem toOption_eq_some {attempt : Except ε α} {result : α} :
    attempt.toOption = some result ↔ attempt = .ok result := by
  cases attempt <;> simp [Except.toOption]

end Steps

section Guards

variable {ε β : Type} {refused : Prop} [Decidable refused] {error : ε}

theorem exists_eq_ok_of_isOk {attempt : Except ε β} (isOk : attempt.isOk = true) :
    ∃ result, attempt = .ok result := by
  cases attempt with
  | error _ => cases isOk
  | ok result => exact ⟨result, rfl⟩

/-- What comes behind a guard is reached exactly if nothing is thrown there. -/
theorem guard_eq_ok {next : PUnit → Except ε β} {result : β} :
    (if refused then throw error >>= next else next PUnit.unit) = .ok result ↔
      ¬ refused ∧ next PUnit.unit = .ok result := by
  by_cases refused : refused
  · simp [refused, throw, throwThe, MonadExceptOf.throw, bind, Except.bind]
  · simp [refused]

theorem return_eq_ok {value result : β} :
    (if refused then throw error else pure value : Except ε β) = .ok result ↔
      ¬ refused ∧ value = result := by
  by_cases refused : refused
  · simp [refused, throw, throwThe, MonadExceptOf.throw]
  · simp [refused, pure, Except.pure]

end Guards

/-! Steps that may come to nothing -/

theorem bind_of_eq_some {α β : Type} {first : Option α} {next : α → Option β} {value : α}
    {result : Option β} (done : first = some value) (others : next value = result) :
    (first >>= next) = result := by
  rw [done]
  exact others

theorem mapM_map_eq_some {α β : Type} {write : α → β} {read : β → Option α} {items : List α}
    (reads : ∀ item ∈ items, read (write item) = some item) :
    (items.map write).mapM read = some items := by
  induction items with
  | nil => rfl
  | cons first rest induction =>
      rw [List.map_cons, List.mapM_cons]
      refine bind_of_eq_some (reads first List.mem_cons_self) ?_
      exact bind_of_eq_some (induction fun item member =>
        reads item (List.mem_cons_of_mem _ member)) rfl

/-! Steps that change something as they go -/

section Changes

variable {ε σ α β : Type} {act : EStateM ε σ α} {next : α → EStateM ε σ β} {start final : σ}

/-- What steps leave behind, whether or not they come to their end. -/
def left : EStateM.Result ε σ α → σ
  | .ok _ state => state
  | .error _ state => state

theorem bind_of_done {value : α} {middle : σ} (done : act start = .ok value middle) :
    (act >>= next) start = next value middle := by
  change EStateM.bind act next start = _
  simp only [EStateM.bind, done]

theorem bind_eq_done {result : β} :
    (act >>= next) start = .ok result final ↔
      ∃ value middle, act start = .ok value middle ∧ next value middle = .ok result final := by
  change EStateM.bind act next start = _ ↔ _
  cases done : act start with
  | ok value middle => simp [EStateM.bind, done, and_assoc]
  | error error middle => simp [EStateM.bind, done]

theorem bind_eq_failed {error : ε} :
    (act >>= next) start = .error error final ↔ act start = .error error final ∨
      ∃ value middle, act start = .ok value middle ∧ next value middle = .error error final := by
  change EStateM.bind act next start = _ ↔ _
  cases done : act start with
  | ok value middle => simp [EStateM.bind, done, and_assoc]
  | error error middle => simp [EStateM.bind, done]

/-- What holds of all that the first step leaves, and then of all that the next one
leaves, holds of what both leave. -/
theorem left_bind (holds : σ → Prop) (first : holds (left (act start)))
    (second : ∀ value middle, act start = .ok value middle → holds middle →
      holds (left (next value middle))) :
    holds (left ((act >>= next) start)) := by
  change holds (left (EStateM.bind act next start))
  cases done : act start with
  | ok value middle =>
      rw [done] at first
      simpa only [EStateM.bind, done] using second value middle done first
  | error error middle =>
      rw [done] at first
      simpa only [EStateM.bind, done, left] using first

theorem bind_eq_bind {other : α → EStateM ε σ β}
    (same : ∀ value middle, act start = .ok value middle → next value middle = other value middle) :
    (act >>= next) start = (act >>= other) start := by
  change EStateM.bind act next start = EStateM.bind act other start
  cases done : act start with
  | ok value middle => simpa only [EStateM.bind, done] using same value middle done
  | error error middle => simp only [EStateM.bind, done]

end Changes

end FaultDrill
