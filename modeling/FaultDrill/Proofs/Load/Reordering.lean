import FaultDrill.Proofs.Load.Arithmetic
import FaultDrill.Proofs.Load.Counting

/-!
Statistics depend on which outcomes there are and not on their order. Sums of binary64
numbers do depend on it, but samples are put into a total order first, in which only
the same numbers are level.
-/

namespace FaultDrill

/-! ## Counts of statuses -/

namespace StatusCounts

variable {counts other : StatusCounts}

theorem IsAscending.nodup (ascending : counts.IsAscending) : counts.Nodup := by
  apply List.Nodup.of_map Prod.fst
  exact List.Pairwise.imp UInt16.ne_of_lt ascending

theorem IsAscending.mem_iff (ascending : counts.IsAscending)
    (positive : ∀ entry ∈ counts, 0 < entry.2) (status : UInt16) (number : Nat) :
    (status, number) ∈ counts ↔ counts.count status = number ∧ 0 < number := by
  induction counts with
  | nil =>
      have none : StatusCounts.count status [] = 0 := rfl
      rw [none]
      simp only [List.not_mem_nil, false_iff]
      omega
  | cons entry rest induction =>
      rcases entry with ⟨first, amount⟩
      rcases List.pairwise_cons.mp ascending with ⟨least, later⟩
      rw [List.forall_mem_cons] at positive
      have others := induction later positive.2
      rw [List.mem_cons, count_cons, others, Prod.mk.injEq]
      by_cases equal : status = first
      · subst equal
        have absent : StatusCounts.count status rest = 0 :=
          count_eq_zero fun member => UInt16.lt_irrefl _ (least status member)
        have filled : 0 < amount := positive.1
        rw [absent, if_pos rfl, eq_self, true_and]
        omega
      · simp [equal]

theorem IsTableOf.eq {statuses : List UInt16} (table : IsTableOf statuses counts)
    (same : IsTableOf statuses other) : counts = other := by
  have members : ∀ entry, entry ∈ counts ↔ entry ∈ other := by
    rintro ⟨status, number⟩
    rw [table.ascending.mem_iff table.positive, same.ascending.mem_iff same.positive,
      table.count, same.count]
  have counted := (List.perm_ext_iff_of_nodup table.ascending.nodup same.ascending.nodup).mpr members
  apply counted.eq_of_pairwise _ (List.pairwise_map.mp table.ascending)
    (List.pairwise_map.mp same.ascending)
  intro left right _ _ below above
  exact absurd (UInt16.lt_trans below above) (UInt16.lt_irrefl _)

end StatusCounts

/-! ## Statistics -/

namespace LoadStats

variable {outcomes same : List Outcome}

theorem countStatuses_eq (perm : outcomes.Perm same) :
    countStatuses outcomes = countStatuses same :=
  ((countStatuses_isTableOf outcomes).perm (perm.filterMap _)).eq (countStatuses_isTableOf same)

theorem countCategory_perm (category : Category) (perm : outcomes.Perm same) :
    countCategory category outcomes = countCategory category same :=
  perm.countP_eq _

theorem ofSamples_eq {samples others : List Float} (perm : samples.Perm others) :
    LatencySummary.ofSamples samples = LatencySummary.ofSamples others := by
  apply LatencySummary.toSummary_injective
  rw [LatencySummary.toSummary_ofSamples, LatencySummary.toSummary_ofSamples,
    binary64.summarize_eq perm]

theorem ofOutcomes_eq (submitted : Nat) (perm : outcomes.Perm same) :
    ofOutcomes submitted outcomes = ofOutcomes submitted same := by
  rw [ofOutcomes, ofOutcomes, countCategory_perm _ perm, countCategory_perm _ perm,
    countCategory_perm _ perm, ofSamples_eq (perm.filterMap _), countStatuses_eq perm]

/-- The order of outcomes leaves no trace in the statistics, not even in the last bit of an
average. The same holds where samples are kept as words, so that those which are no numbers
stay apart, and whatever adding them comes to. -/
theorem ofOutcomes_orderless (submitted : Nat) (perm : outcomes.Perm same) :
    ofOutcomes submitted outcomes = ofOutcomes submitted same ∧
      ∀ add divide {raw others : List UInt64}, raw.Perm others →
        (words add divide).summarize raw = (words add divide).summarize others := by
  constructor
  · exact ofOutcomes_eq submitted perm
  · intro add divide raw others perm
    exact (words add divide).summarize_eq perm

theorem ofOutcomes_orderless_swap :
    let failed : Outcome := .transportFailure
    let strange : Outcome := .ofResponse 503 (0 / 0)
    let negative : Outcome := .ofResponse 200 (-0.0)
    let endless : Outcome := .ofResponse 200 (1 / 0)
    [failed, strange, negative, endless].Perm [endless, negative, strange, failed] ∧
      ofOutcomes 4 [failed, strange, negative, endless] =
        ofOutcomes 4 [endless, negative, strange, failed] := by
  intro failed strange negative endless
  have perm : [failed, strange, negative, endless].Perm [endless, negative, strange, failed] :=
    (List.reverse_perm [failed, strange, negative, endless]).symm
  exact ⟨perm, (ofOutcomes_orderless 4 perm).1⟩

end LoadStats

end FaultDrill
