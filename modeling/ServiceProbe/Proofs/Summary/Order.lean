import ServiceProbe.Summary

/-!
# Summaries and the order of outcomes

Floating-point sums depend on the order of their terms. A summary does not depend on the order of the
outcomes all the same: the latencies are put in the total order of doubles first, in which no two doubles
stand at one place, so that one list of samples has one sorted form, bit for bit.

* `LatencyStats.sorted_eq_of_perm` — a list and its permutations have the same sorted form;
* `LatencyStats.ofSamples_eq_of_sorted` — the figures of samples are computed from that form alone;
* `Summary.of_eq_of_perm` — lists of outcomes have the same summary as their permutations;
* `Summary.figures_ignore_order` — the order has no say in any figure, of outcomes or of samples.
-/

namespace ServiceProbe

open Number (Double)

namespace Number.Double

/-! ### The total order -/

theorem totalLe_iff {x y : Double} : x.totalLe y = true ↔ x.orderKey ≤ y.orderKey :=
  decide_eq_true_iff

theorem totalLe_trans (x y z : Double) (first : x.totalLe y = true) (second : y.totalLe z = true) :
    x.totalLe z = true := by
  rw [totalLe_iff] at first second ⊢
  exact Nat.le_trans first second

theorem totalLe_total (x y : Double) : (x.totalLe y || y.totalLe x) = true := by
  rw [Bool.or_eq_true, totalLe_iff, totalLe_iff]
  exact Nat.le_total x.orderKey y.orderKey

/-- No two doubles stand at one place, zeros and those that are no numbers included. -/
theorem totalLe_antisymm {x y : Double} (first : x.totalLe y = true) (second : y.totalLe x = true) :
    x = y := by
  rw [totalLe_iff] at first second
  exact eq_of_orderKey (Nat.le_antisymm first second)

end Number.Double

namespace LatencyStats

/-! ### Sorted samples -/

theorem mem_sorted {samples : List Double} {sample : Double} : sample ∈ sorted samples ↔ sample ∈ samples :=
  List.mem_mergeSort

theorem sorted_ne_nil {samples : List Double} (notEmpty : samples ≠ []) : sorted samples ≠ [] := by
  rw [← List.length_pos_iff, sorted, List.length_mergeSort]
  exact List.length_pos_iff.2 notEmpty

theorem pairwise_sorted (samples : List Double) :
    (sorted samples).Pairwise fun x y => x.totalLe y = true :=
  List.pairwise_mergeSort Double.totalLe_trans Double.totalLe_total samples

/-- One list of samples has one sorted form, whatever its order. -/
theorem sorted_eq_of_perm {samples samples' : List Double} (h : samples.Perm samples') :
    sorted samples = sorted samples' := by
  have same : (sorted samples).Perm (sorted samples') :=
    (List.mergeSort_perm samples _).trans (h.trans (List.mergeSort_perm samples' _).symm)
  refine List.Perm.eq_of_pairwise ?_ (pairwise_sorted samples) (pairwise_sorted samples') same
  intro x y _ _ first second
  exact Double.totalLe_antisymm first second

/-- Samples in the total order are the sorted form of their permutations. -/
theorem sorted_eq_of_ascending {samples ascending : List Double} (perm : ascending.Perm samples)
    (isAscending : ascending.Pairwise fun x y => x.totalLe y = true) : sorted samples = ascending := by
  rw [← sorted_eq_of_perm perm]
  exact List.mergeSort_of_pairwise isAscending

/-- The figures of samples, from their sorted form. -/
theorem ofSamples_eq_of_sorted {samples ascending : List Double} (isSorted : sorted samples = ascending)
    (notEmpty : ascending ≠ []) :
    ofSamples samples =
      { average := (sum ascending).div (Double.ofNat ascending.length)
        maximum := ascending.getLast notEmpty
        p95 := nearestRank ascending (Double.ofRatio false 95 100)
        p99 := nearestRank ascending (Double.ofRatio false 99 100) } := by
  obtain ⟨first, rest, rfl⟩ := List.exists_cons_of_ne_nil notEmpty
  rw [ofSamples, isSorted]
  simp only [List.getLastD_eq_getLast?, List.getLast?_eq_some_getLast notEmpty, Option.getD_some]

/-- The distribution of latencies does not depend on the order of the samples. -/
theorem ofSamples_eq_of_perm {samples samples' : List Double} (h : samples.Perm samples') :
    ofSamples samples = ofSamples samples' := by
  unfold ofSamples
  rw [sorted_eq_of_perm h]

end LatencyStats

/-! ### Counts -/

/-- Two outcomes are counted in either order. -/
theorem Breakdown.record_comm (held : Breakdown) (kind kind' : OutcomeKind) :
    (held.record kind).record kind' = (held.record kind').record kind := by
  cases kind <;> cases kind' <;> rfl

/-- **The order of the outcomes has no say in their summary.** Each field is the same, those in floating
point bit for bit. -/
theorem Summary.of_eq_of_perm {outcomes outcomes' : List Outcome} (h : outcomes.Perm outcomes')
    (options : SummaryOptions) : Summary.of outcomes options = Summary.of outcomes' options := by
  have latency := LatencyStats.ofSamples_eq_of_perm
    ((h.filter options.contributes).map fun outcome => Nanos.milliseconds outcome.latency)
  have counts : outcomes.foldl (fun held outcome => held.record outcome.kind) ({} : Breakdown) =
      outcomes'.foldl (fun held outcome => held.record outcome.kind) {} :=
    h.foldl_eq' (fun outcome _ outcome' _ held =>
      Breakdown.record_comm held outcome.kind outcome'.kind) _
  unfold Summary.of
  rw [h.length_eq, (h.filter options.countsAsSuccess).length_eq, latency, counts]

/-! ### Figures -/

namespace Summary

/-- **Collection order.** Outcomes in any order have one summary, under all options, and samples in any order one
distribution, also where some of them are equal, infinite, zeros of either sign or no numbers at all. Its four
figures are computed from the one arrangement of the samples that ascends in the total order: the sum is taken
along it, and the others stand at fixed places of it. -/
theorem figures_ignore_order :
    (∀ (outcomes outcomes' : List Outcome) (options : SummaryOptions), outcomes.Perm outcomes' →
      Summary.of outcomes options = Summary.of outcomes' options) ∧
    (∀ samples samples' : List Double, samples.Perm samples' →
      LatencyStats.ofSamples samples = LatencyStats.ofSamples samples') ∧
    ∀ samples ascending : List Double, ascending.Perm samples →
      (ascending.Pairwise fun x y => x.totalLe y = true) → ∀ notEmpty : ascending ≠ [],
        LatencyStats.ofSamples samples =
          { average := (ascending.foldl Double.add Double.negativeZero).div (Double.ofNat ascending.length)
            maximum := ascending.getLast notEmpty
            p95 := nearestRank ascending (Double.ofRatio false 95 100)
            p99 := nearestRank ascending (Double.ofRatio false 99 100) } := by
  refine ⟨fun outcomes outcomes' options perm => of_eq_of_perm perm options,
    fun samples samples' perm => LatencyStats.ofSamples_eq_of_perm perm,
    fun samples ascending perm isAscending notEmpty => ?_⟩
  have isSorted : LatencyStats.sorted samples = ascending :=
    LatencyStats.sorted_eq_of_ascending perm isAscending
  exact LatencyStats.ofSamples_eq_of_sorted isSorted notEmpty

/-- Large samples first, so that small ones are lost to rounding if they are added in this order. -/
def lossy : List Double :=
  [Double.ofNat 9007199254740992, Double.zero, Double.ofNat 1, Double.negativeZero, Double.ofNat 1]

/-- Added up in two orders, these samples have two sums; they have one average all the same. The others have the
largest of them, which is no number, for their maximum. -/
theorem figures_ignore_order_of_lossy :
    let ascending :=
      [Double.negativeZero, Double.zero, Double.ofNat 1, Double.ofNat 1, Double.ofNat 9007199254740992]
    let limits := [Double.infinity, Double.nan, Double.negativeZero, Double.nan.neg, Double.zero]
    let limits' := [Double.nan.neg, Double.negativeZero, Double.zero, Double.infinity, Double.nan]
    let outcomes := [Outcome.timedOut 1 7, Outcome.failure "refused" 7, Outcome.transportError "lost" 2]
    (lossy.Perm ascending ∧ LatencyStats.sum lossy ≠ LatencyStats.sum ascending ∧
      LatencyStats.ofSamples lossy = LatencyStats.ofSamples ascending) ∧
    (limits'.Perm limits ∧ limits'.Pairwise (fun x y => x.totalLe y = true) ∧ limits' ≠ [] ∧
      (LatencyStats.ofSamples limits).maximum = Double.nan) ∧
    outcomes.Perm outcomes.reverse ∧ Summary.of outcomes {} = Summary.of outcomes.reverse {} := by
  intro ascending limits limits' outcomes
  obtain ⟨ofOutcomes, ofSamples, figures⟩ := figures_ignore_order
  have perm : lossy.Perm ascending := by decide +kernel
  have isAscending : limits'.Pairwise fun x y => x.totalLe y = true := by decide +kernel
  have perm' : limits'.Perm limits := by decide +kernel
  have reversed : outcomes.Perm outcomes.reverse := (List.reverse_perm outcomes).symm
  refine ⟨⟨perm, by decide +kernel, ofSamples lossy ascending perm⟩,
    ⟨perm', isAscending, by decide, ?_⟩, reversed, ofOutcomes outcomes outcomes.reverse {} reversed⟩
  rw [figures limits limits' perm' isAscending (by decide)]
  rfl

end Summary

end ServiceProbe
