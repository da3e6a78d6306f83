import FaultDrill.Latency
import FaultDrill.Proofs.Decimal.Bits

/-!
Summaries of numbers of any kind. All they need is a total order in which only the same
numbers are level. Sums of binary64 numbers obey hardly any law, so none is asked for.
-/

namespace FaultDrill

/-- Numbers that are put in order, added up and divided by counts. -/
structure Arithmetic (Number : Type) where
  /-- The place of a number in the total order. -/
  key : Number → Int
  key_injective : Function.Injective key
  zero : Number
  /-- Where sums start. -/
  start : Number
  add : Number → Number → Number
  divide : Number → Nat → Number

/-- What a summary of samples tells. -/
structure Summary (Number : Type) where
  samples : Nat
  average : Number
  median : Number
  p95 : Number
  p99 : Number
  max : Number

namespace Arithmetic

variable {Number : Type} (arithmetic : Arithmetic Number) {samples same : List Number}

def sort (samples : List Number) : List Number :=
  samples.mergeSort fun left right => arithmetic.key left ≤ arithmetic.key right

/-- The sample at the nearest rank. -/
def percentile (percent : Nat) (samples : List Number) : Number :=
  (arithmetic.sort samples).getD (nearestRank percent samples.length) arithmetic.zero

def greatest (samples : List Number) : Number :=
  (arithmetic.sort samples).getLastD arithmetic.zero

def summarize (samples : List Number) : Summary Number :=
  if samples.isEmpty then
    ⟨0, arithmetic.zero, arithmetic.zero, arithmetic.zero, arithmetic.zero, arithmetic.zero⟩
  else
    { samples := samples.length
      average := arithmetic.divide
        ((arithmetic.sort samples).foldl arithmetic.add arithmetic.start) samples.length
      median := arithmetic.percentile 50 samples
      p95 := arithmetic.percentile 95 samples
      p99 := arithmetic.percentile 99 samples
      max := arithmetic.greatest samples }

/-! ## Samples in order -/

theorem sort_perm (samples : List Number) : (arithmetic.sort samples).Perm samples :=
  List.mergeSort_perm _ _

theorem length_sort (samples : List Number) : (arithmetic.sort samples).length = samples.length :=
  (arithmetic.sort_perm samples).length_eq

theorem sort_ascending (samples : List Number) :
    (arithmetic.sort samples).Pairwise (arithmetic.key · ≤ arithmetic.key ·) := by
  have sorted : (arithmetic.sort samples).Pairwise
      fun left right => decide (arithmetic.key left ≤ arithmetic.key right) = true :=
    List.pairwise_mergeSort (by simpa using fun _ _ _ => Int.le_trans)
      (by simpa using fun _ _ => Int.le_total _ _) samples
  simpa only [decide_eq_true_eq] using sorted

theorem sort_eq (perm : samples.Perm same) : arithmetic.sort samples = arithmetic.sort same := by
  have sorted := ((arithmetic.sort_perm samples).trans perm).trans (arithmetic.sort_perm same).symm
  apply List.Perm.eq_of_pairwise _ (arithmetic.sort_ascending samples)
    (arithmetic.sort_ascending same) sorted
  intro left right _ _ below above
  exact arithmetic.key_injective (Int.le_antisymm below above)

/-- The order of samples leaves no trace in their summary. -/
theorem summarize_eq (perm : samples.Perm same) :
    arithmetic.summarize samples = arithmetic.summarize same := by
  have empty : samples.isEmpty = same.isEmpty := by
    rw [Bool.eq_iff_iff, List.isEmpty_iff_length_eq_zero, List.isEmpty_iff_length_eq_zero,
      perm.length_eq]
  simp only [summarize, percentile, greatest, empty, perm.length_eq, arithmetic.sort_eq perm]

end Arithmetic

/-! ## Numbers of 64 bits -/

/-- The place of the number that 64 bits stand for. -/
def wordKey (bits : UInt64) : Int :=
  if bits.toNat < Nat.pow 2 63 then bits.toNat else (Nat.pow 2 63 : Int) - bits.toNat - 1

theorem wordKey_injective : Function.Injective wordKey := by
  intro left right same
  apply UInt64.toNat_inj.mp
  have leftBound := left.toNat_lt
  have rightBound := right.toNat_lt
  have half : Nat.pow 2 63 = 9223372036854775808 := rfl
  simp only [wordKey, half] at same
  split at same <;> split at same <;> omega

theorem orderKey_injective : Function.Injective orderKey := by
  intro left right same
  exact Float.toBits_inj.mp (wordKey_injective same)

def binary64 : Arithmetic Float where
  key := orderKey
  key_injective := orderKey_injective
  zero := 0
  start := -0.0
  add := (· + ·)
  divide sum count := sum / countToFloat count

/-- A number that is none can have many bits, and `Float` keeps only one of them. Words keep
them all, and the total order tells them apart. -/
def words (add : UInt64 → UInt64 → UInt64) (divide : UInt64 → Nat → UInt64) :
    Arithmetic UInt64 where
  key := wordKey
  key_injective := wordKey_injective
  zero := 0
  start := 0x8000000000000000
  add
  divide

namespace LatencySummary

def toSummary (summary : LatencySummary) : Summary Float where
  samples := summary.samples
  average := summary.average
  median := summary.median
  p95 := summary.p95
  p99 := summary.p99
  max := summary.max

theorem toSummary_injective : Function.Injective toSummary := by
  rintro ⟨⟩ ⟨⟩ same
  cases same
  rfl

theorem toSummary_ofSamples (samples : List Float) :
    (ofSamples samples).toSummary = binary64.summarize samples := by
  have count : (sortSamples samples).length = samples.length := binary64.length_sort samples
  rw [ofSamples, Arithmetic.summarize]
  split
  · rfl
  · dsimp only
    rw [count]
    rfl

end LatencySummary

end FaultDrill
