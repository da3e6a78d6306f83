import FaultDrill.Proofs.Load.Arithmetic

/-!
Percentiles by nearest rank. A percentile is the smallest sample with enough of all samples
at or below it. Samples in ascending order have it at the nearest rank: what stands before
the rank is below or level, and what stands behind it does not count for anything smaller.
-/

namespace FaultDrill

/-! ## Ranks -/

theorem nearestRank_lt {percent count : Nat} (filled : 0 < count) :
    nearestRank percent count < count := by
  rw [nearestRank]
  omega

theorem le_nearestRank {percent : Nat} (count : Nat) (whole : percent ≤ 100) :
    percent * count ≤ 100 * (nearestRank percent count + 1) := by
  have most : percent * count ≤ 100 * count := Nat.mul_le_mul_right count whole
  rw [nearestRank, Nat.mul_comm count percent]
  omega

theorem nearestRank_lt_share {percent count : Nat} (some : 0 < percent) (filled : 0 < count) :
    100 * nearestRank percent count < percent * count := by
  have least : 0 < percent * count := Nat.mul_pos some filled
  rw [nearestRank, Nat.mul_comm count percent]
  omega

theorem nearestRank_le_nearestRank {lower higher : Nat} (count : Nat) (order : lower ≤ higher) :
    nearestRank lower count ≤ nearestRank higher count := by
  have most : count * lower ≤ count * higher := Nat.mul_le_mul_left count order
  rw [nearestRank, nearestRank]
  omega

/-! ## Samples in ascending order -/

section Ascending

variable {Number : Type} {key : Number → Int} {sorted : List Number}

/-- How many samples are at or below a value. -/
def countUpTo (key : Number → Int) (samples : List Number) (value : Number) : Nat :=
  samples.countP fun sample => key sample ≤ key value

theorem key_le_of_le (ascending : sorted.Pairwise (key · ≤ key ·)) {first second : Nat}
    (order : first ≤ second) (bound : second < sorted.length) :
    key (sorted[first]) ≤ key (sorted[second]) := by
  rcases Nat.lt_or_eq_of_le order with before | rfl
  · exact List.pairwise_iff_getElem.mp ascending first second _ bound before
  · exact Int.le_refl _

theorem countUpTo_cons (key : Number → Int) (first : Number) (rest : List Number) (value : Number) :
    countUpTo key (first :: rest) value =
      countUpTo key rest value + if key first ≤ key value then 1 else 0 := by
  rw [countUpTo, List.countP_cons, countUpTo]
  simp only [decide_eq_true_eq]

theorem countUpTo_eq_zero {value : Number} (above : ∀ sample ∈ sorted, key value < key sample) :
    countUpTo key sorted value = 0 := by
  rw [countUpTo, List.countP_eq_zero]
  intro sample member
  rw [decide_eq_true_eq]
  exact Int.not_le.mpr (above sample member)

/-- The samples up to a value are those at the first ranks. -/
theorem lt_countUpTo_iff (ascending : sorted.Pairwise (key · ≤ key ·)) {rank : Nat}
    (bound : rank < sorted.length) (value : Number) :
    rank < countUpTo key sorted value ↔ key (sorted[rank]) ≤ key value := by
  induction sorted generalizing rank with
  | nil => exact absurd bound (Nat.not_lt_zero _)
  | cons first rest induction =>
      rcases List.pairwise_cons.mp ascending with ⟨least, later⟩
      rw [countUpTo_cons]
      by_cases counted : key first ≤ key value
      · rw [if_pos counted]
        cases rank with
        | zero => exact iff_of_true (Nat.succ_pos _) counted
        | succ rank =>
            rw [Nat.add_lt_add_iff_right, List.getElem_cons_succ]
            exact induction later (Nat.lt_of_succ_lt_succ bound)
      · have above : ∀ sample ∈ first :: rest, key value < key sample := by
          rw [List.forall_mem_cons]
          exact ⟨Int.not_le.mp counted,
            fun sample member => Int.lt_of_lt_of_le (Int.not_le.mp counted) (least sample member)⟩
        rw [if_neg counted, countUpTo_eq_zero (List.forall_mem_cons.mp above).2]
        exact iff_of_false (Nat.not_lt_zero _)
          (Int.not_le.mpr (above _ (List.getElem_mem bound)))

end Ascending

/-! ## Percentiles -/

section Percentiles

variable {Number : Type} {key : Number → Int} {percent : Nat} {samples same : List Number}
  {value other : Number}

/-- The smallest sample that has at least `percent` of a hundred of all samples at or below
it. -/
structure IsPercentile (key : Number → Int) (percent : Nat) (samples : List Number)
    (value : Number) : Prop where
  member : value ∈ samples
  enough : percent * samples.length ≤ 100 * countUpTo key samples value
  least : ∀ sample ∈ samples, key sample < key value →
    100 * countUpTo key samples sample < percent * samples.length

/-- A sample that no other one is behind. -/
structure IsLast (key : Number → Int) (samples : List Number) (value : Number) : Prop where
  member : value ∈ samples
  last : ∀ sample ∈ samples, key sample ≤ key value

/-- No percentile is below another one. -/
theorem IsPercentile.key_le (percentile : IsPercentile key percent samples value)
    (another : IsPercentile key percent samples other) : key value ≤ key other := by
  by_contra above
  have missed := percentile.least other another.member (Int.not_le.mp above)
  exact absurd another.enough (Nat.not_le.mpr missed)

theorem IsPercentile.perm (percentile : IsPercentile key percent samples value)
    (perm : samples.Perm same) : IsPercentile key percent same value := by
  have counts (value : Number) : countUpTo key same value = countUpTo key samples value :=
    (perm.countP_eq _).symm
  constructor
  · exact perm.mem_iff.mp percentile.member
  · rw [← perm.length_eq, counts]
    exact percentile.enough
  · intro sample member below
    rw [← perm.length_eq, counts]
    exact percentile.least sample (perm.mem_iff.mpr member) below

theorem isPercentile_of_ascending {sorted : List Number}
    (ascending : sorted.Pairwise (key · ≤ key ·)) (some : 0 < percent) (whole : percent ≤ 100)
    (bound : nearestRank percent sorted.length < sorted.length) :
    IsPercentile key percent sorted (sorted[nearestRank percent sorted.length]) := by
  constructor
  · exact List.getElem_mem bound
  · have counted := (lt_countUpTo_iff ascending bound _).mpr (Int.le_refl _)
    have share := le_nearestRank sorted.length whole
    omega
  · intro sample _ below
    have uncounted := (lt_countUpTo_iff ascending bound sample).not.mpr (Int.not_le.mpr below)
    have share := nearestRank_lt_share some (Nat.lt_of_le_of_lt (Nat.zero_le _) bound)
    omega

end Percentiles

/-! ## Summaries -/

/-- What a summary tells of samples are their percentiles by nearest rank and the last of
them, and nothing else is. -/
structure Summary.Ranks {Number : Type} (key : Number → Int) (samples : List Number)
    (summary : Summary Number) : Prop where
  inBounds : ∀ percent ∈ [50, 95, 99], nearestRank percent samples.length < samples.length
  median : ∀ value, IsPercentile key 50 samples value ↔ value = summary.median
  p95 : ∀ value, IsPercentile key 95 samples value ↔ value = summary.p95
  p99 : ∀ value, IsPercentile key 99 samples value ↔ value = summary.p99
  max : ∀ value, IsLast key samples value ↔ value = summary.max
  ascending : key summary.median ≤ key summary.p95 ∧ key summary.p95 ≤ key summary.p99 ∧
    key summary.p99 ≤ key summary.max

namespace Arithmetic

variable {Number : Type} (arithmetic : Arithmetic Number) {samples : List Number} {percent : Nat}

theorem percentile_eq
    (bound : nearestRank percent samples.length < (arithmetic.sort samples).length) :
    arithmetic.percentile percent samples =
      (arithmetic.sort samples)[nearestRank percent samples.length] :=
  (List.getElem_eq_getD _).symm

theorem nearestRank_lt_sort (percent : Nat) (filled : samples ≠ []) :
    nearestRank percent samples.length < (arithmetic.sort samples).length := by
  rw [arithmetic.length_sort]
  exact nearestRank_lt (List.length_pos_of_ne_nil filled)

theorem isPercentile_iff (filled : samples ≠ []) (some : 0 < percent) (whole : percent ≤ 100)
    (value : Number) :
    IsPercentile arithmetic.key percent samples value ↔
      value = arithmetic.percentile percent samples := by
  have found : IsPercentile arithmetic.key percent samples
      (arithmetic.percentile percent samples) := by
    have bound := arithmetic.nearestRank_lt_sort percent filled
    rw [arithmetic.percentile_eq bound]
    apply IsPercentile.perm _ (arithmetic.sort_perm samples)
    have ranked := isPercentile_of_ascending (arithmetic.sort_ascending samples) some whole
    simp only [arithmetic.length_sort] at ranked bound ⊢
    exact ranked bound
  constructor
  · intro percentile
    exact arithmetic.key_injective
      (Int.le_antisymm (percentile.key_le found) (found.key_le percentile))
  · rintro rfl
    exact found

theorem percentile_le_percentile {lower higher : Nat} (filled : samples ≠ [])
    (order : lower ≤ higher) :
    arithmetic.key (arithmetic.percentile lower samples) ≤
      arithmetic.key (arithmetic.percentile higher samples) := by
  rw [arithmetic.percentile_eq (arithmetic.nearestRank_lt_sort lower filled),
    arithmetic.percentile_eq (arithmetic.nearestRank_lt_sort higher filled)]
  exact key_le_of_le (arithmetic.sort_ascending samples)
    (nearestRank_le_nearestRank samples.length order) _

theorem isLast_iff (filled : samples ≠ []) (value : Number) :
    IsLast arithmetic.key samples value ↔ value = arithmetic.greatest samples := by
  have filled : arithmetic.sort samples ≠ [] := by
    rwa [← List.length_pos_iff, arithmetic.length_sort, List.length_pos_iff]
  have found : IsLast arithmetic.key samples (arithmetic.greatest samples) := by
    rw [greatest, List.getLastD_eq_getLast?, List.getLast?_eq_some_getLast filled, Option.getD_some]
    constructor
    · exact (arithmetic.sort_perm samples).mem_iff.mp (List.getLast_mem filled)
    · intro sample member
      rcases List.getElem_of_mem ((arithmetic.sort_perm samples).mem_iff.mpr member) with
        ⟨place, bound, rfl⟩
      rw [List.getLast_eq_getElem]
      exact key_le_of_le (arithmetic.sort_ascending samples) (Nat.le_sub_one_of_lt bound) _
  constructor
  · intro last
    exact arithmetic.key_injective
      (Int.le_antisymm (found.last value last.member) (last.last _ found.member))
  · rintro rfl
    exact found

/-- A summary of some samples tells their percentiles and the last of them. -/
theorem summarize_ranks (filled : samples ≠ []) :
    (arithmetic.summarize samples).Ranks arithmetic.key samples := by
  have summary : arithmetic.summarize samples =
      { samples := samples.length
        average := arithmetic.divide
          ((arithmetic.sort samples).foldl arithmetic.add arithmetic.start) samples.length
        median := arithmetic.percentile 50 samples
        p95 := arithmetic.percentile 95 samples
        p99 := arithmetic.percentile 99 samples
        max := arithmetic.greatest samples } :=
    if_neg (mt List.isEmpty_iff.mp filled)
  rw [summary]
  constructor
  · intro percent _
    exact nearestRank_lt (List.length_pos_of_ne_nil filled)
  · exact arithmetic.isPercentile_iff filled (by decide) (by decide)
  · exact arithmetic.isPercentile_iff filled (by decide) (by decide)
  · exact arithmetic.isPercentile_iff filled (by decide) (by decide)
  · exact arithmetic.isLast_iff filled
  · have member := ((arithmetic.isPercentile_iff filled (by decide) (by decide) _).mpr
      (Eq.refl (arithmetic.percentile 99 samples))).member
    exact ⟨arithmetic.percentile_le_percentile filled (by decide),
      arithmetic.percentile_le_percentile filled (by decide),
      ((arithmetic.isLast_iff filled _).mpr rfl).last _ member⟩

end Arithmetic

/-- The latencies of a load window are summed up by nearest rank, and so are words, of
which many stand for no number. -/
theorem LatencySummary.ofSamples_ranks {samples : List Float} (filled : samples ≠ []) :
    (ofSamples samples).toSummary.Ranks orderKey samples ∧
      ∀ add divide (raw : List UInt64), raw ≠ [] →
        ((words add divide).summarize raw).Ranks wordKey raw := by
  constructor
  · rw [toSummary_ofSamples]
    exact binary64.summarize_ranks filled
  · intro add divide raw filled
    exact (words add divide).summarize_ranks filled

theorem LatencySummary.ofSamples_ranks_three :
    [2.5, -0.0, 0 / 0] ≠ ([] : List Float) ∧
      (ofSamples [2.5, -0.0, 0 / 0]).toSummary.Ranks orderKey [2.5, -0.0, 0 / 0] :=
  ⟨List.cons_ne_nil _ _, (ofSamples_ranks (List.cons_ne_nil _ _)).1⟩

end FaultDrill
