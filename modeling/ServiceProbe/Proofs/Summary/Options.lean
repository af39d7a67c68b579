import Mathlib.Data.List.Pairwise
import ServiceProbe.Proofs.Summary.Counts
import ServiceProbe.Proofs.Summary.Percentiles

/-!
# The options of a summary

One option says whether a cancelled task counts as a success, the other whether only successes have a say in the
latencies. The first is read where outcomes are counted and the second is not, but both are read where latencies are
collected: so the policy for cancelled tasks changes latencies as well, and only under the second option.

* `SummaryOptions.filter_contributes` — the outcomes that contribute their latencies;
* `LatencyStats.isSize_figures` — a distribution consists of numbers, whatever the samples;
* `LatencyStats.maximum_le_of_subset` — more samples do not have a smaller maximum;
* `Summary.options_apart` — what each option changes, and what it does not.
-/

namespace ServiceProbe

open Number (Double)

/-! ### Distributions -/

/-- No sample is chosen that is not there. -/
theorem nearestRank_mem {samples : List Double} (notEmpty : samples ≠ []) (quantile : Double) :
    nearestRank samples quantile ∈ samples := by
  have pos : 0 < samples.length := List.length_pos_iff.2 notEmpty
  have within : ∀ index : Nat, min index (samples.length - 1) < samples.length := by omega
  rw [nearestRank, List.getD_eq_getElem?_getD, List.getElem?_eq_getElem (within _), Option.getD_some]
  exact List.getElem_mem _

namespace LatencyStats

/-- The figures of a distribution. -/
def figures (stats : LatencyStats) : List Double :=
  [stats.average, stats.maximum, stats.p95, stats.p99]

variable {samples samples' : List Double}

theorem ofSamples_nil : ofSamples [] = {} := by
  rw [ofSamples, sorted, List.mergeSort_nil]

/-- The maximum is one of the samples. -/
theorem maximum_mem (notEmpty : samples ≠ []) : (ofSamples samples).maximum ∈ samples := by
  rw [ofSamples_eq_of_sorted rfl (sorted_ne_nil notEmpty)]
  exact mem_sorted.1 (List.getLast_mem _)

/-- No sample stands above the maximum. -/
theorem totalLe_maximum {sample : Double} (member : sample ∈ samples) :
    sample.totalLe (ofSamples samples).maximum = true := by
  have place : sample ∈ sorted samples := mem_sorted.2 member
  rw [ofSamples_eq_of_sorted rfl (List.ne_nil_of_mem place)]
  refine (pairwise_sorted samples).rel_getLast_of_rel_getLast_getLast place ?_
  exact Double.totalLe_iff.2 (Nat.le_refl _)

/-- A sum of some sizes is a size, although it begins with minus zero. -/
theorem isSize_sum (notEmpty : samples ≠ []) (sizes : ∀ sample ∈ samples, sample.IsSize) : (sum samples).IsSize := by
  obtain ⟨first, rest, rfl⟩ := List.exists_cons_of_ne_nil notEmpty
  rw [sum, List.foldl_cons]
  exact Double.IsSize.isSize_foldl_add (fun sample member => sizes sample (List.mem_cons_of_mem _ member))
    (Double.IsSize.isSize_add (.inr rfl) (sizes first List.mem_cons_self))

/-- **A distribution consists of numbers**, as long as the samples can be counted by a word. -/
theorem isSize_figures (sizes : ∀ sample ∈ samples, sample.IsSize) (fits : samples.length < UInt64.size) :
    ∀ figure ∈ (ofSamples samples).figures, figure.IsSize := by
  by_cases isEmpty : samples = []
  · rw [isEmpty, ofSamples_nil]
    intro figure member
    -- without samples all four are the default
    obtain rfl : figure = Double.zero := List.eq_of_mem_replicate (n := 4) member
    exact Double.isSize_zero
  have notEmpty : sorted samples ≠ [] := sorted_ne_nil isEmpty
  have sizes' : ∀ sample ∈ sorted samples, sample.IsSize := fun sample member => sizes sample (mem_sorted.1 member)
  have fits' : (sorted samples).length < UInt64.size := by rwa [sorted, List.length_mergeSort]
  obtain ⟨finite, pos⟩ := Double.finite_pos_ofNat (List.length_pos_iff.2 notEmpty).ne' fits'
  have average := (isSize_sum notEmpty sizes').isSize_div (Double.isSize_ofRatio _ 1) finite pos
  rw [ofSamples_eq_of_sorted rfl notEmpty, figures, List.forall_mem_cons, List.forall_mem_cons, List.forall_mem_cons,
    List.forall_mem_singleton]
  exact ⟨average, sizes' _ (List.getLast_mem notEmpty), sizes' _ (nearestRank_mem notEmpty _),
    sizes' _ (nearestRank_mem notEmpty _)⟩

/-- **More samples do not have a smaller maximum**, nor do any have a smaller one than none. -/
theorem maximum_le_of_subset (sizes : ∀ sample ∈ samples', sample.IsSize) (subset : samples ⊆ samples') :
    (ofSamples samples).maximum.le (ofSamples samples').maximum = true := by
  have isSize' : (ofSamples samples').maximum.IsSize := by
    by_cases isEmpty : samples' = []
    · rw [isEmpty, ofSamples_nil]
      exact Double.isSize_zero
    · exact sizes _ (maximum_mem isEmpty)
  by_cases isEmpty : samples = []
  · rw [isEmpty, ofSamples_nil]
    refine Double.isSize_zero.le_of_totalLe isSize' ((Double.isSize_zero.totalLe_iff isSize').2 ?_)
    exact Nat.zero_le _
  · have member := subset (maximum_mem isEmpty)
    exact (sizes _ member).le_of_totalLe isSize' (totalLe_maximum member)

end LatencyStats

/-! ### What is counted and what contributes -/

/-- The outcomes that count as successes under a policy. -/
def CancelledPolicy.counted (policy : CancelledPolicy) (outcomes : List Outcome) : List Outcome :=
  outcomes.filter fun outcome => outcome.kind = .success ∨ outcome.kind = .cancelled ∧ policy = .asSuccess

theorem SummaryOptions.filter_countsAsSuccess (options : SummaryOptions) (outcomes : List Outcome) :
    outcomes.filter options.countsAsSuccess = options.cancelled.counted outcomes := by
  refine List.filter_congr fun outcome _ => ?_
  rw [Bool.eq_iff_iff, SummaryOptions.countsAsSuccess_iff, decide_eq_true_iff]

/-- All outcomes contribute their latencies, or those that count as successes do. -/
theorem SummaryOptions.filter_contributes (options : SummaryOptions) (outcomes : List Outcome) :
    outcomes.filter options.contributes =
      match options.latencyBasis with
      | .allOutcomes => outcomes
      | .successesOnly => options.cancelled.counted outcomes := by
  cases basis : options.latencyBasis with
  | allOutcomes =>
    refine List.filter_eq_self.2 fun outcome _ => ?_
    rw [contributes, basis]
    exact Bool.or_true _
  | successesOnly =>
    rw [← filter_countsAsSuccess]
    refine List.filter_congr fun outcome _ => ?_
    rw [contributes, basis]
    exact Bool.or_false _

namespace Summary

/-- The latencies of outcomes in milliseconds. -/
def samples (outcomes : List Outcome) : List Double :=
  outcomes.map fun outcome => Nanos.milliseconds outcome.latency

theorem isSize_of_mem_samples (outcomes : List Outcome) : ∀ sample ∈ samples outcomes, sample.IsSize := by
  intro sample member
  obtain ⟨outcome, -, rfl⟩ := List.mem_map.1 member
  exact Nanos.isSize_milliseconds _

theorem latency_allOutcomes (outcomes : List Outcome) (policy : CancelledPolicy) :
    (Summary.of outcomes ⟨policy, .allOutcomes⟩).latency = LatencyStats.ofSamples (samples outcomes) := by
  show LatencyStats.ofSamples (samples (outcomes.filter _)) = _
  rw [SummaryOptions.filter_contributes]

theorem latency_successesOnly (outcomes : List Outcome) (policy : CancelledPolicy) :
    (Summary.of outcomes ⟨policy, .successesOnly⟩).latency =
      LatencyStats.ofSamples (samples (policy.counted outcomes)) := by
  show LatencyStats.ofSamples (samples (outcomes.filter _)) = _
  rw [SummaryOptions.filter_contributes]

/-! ### The options apart -/

/-- Two summaries count alike. -/
structure CountsAlike (summary summary' : Summary) : Prop where
  total : summary.total = summary'.total
  succeeded : summary.succeeded = summary'.succeeded
  failed : summary.failed = summary'.failed
  successRate : summary.successRate = summary'.successRate
  breakdown : summary.breakdown = summary'.breakdown

/-- The lenient summary counts as successes what is cancelled, which the strict one counts as failures. -/
structure Pardons (lenient strict : Summary) : Prop where
  total : lenient.total = strict.total
  succeeded : lenient.succeeded = strict.succeeded + strict.breakdown.cancelled
  failed : strict.failed = lenient.failed + strict.breakdown.cancelled
  breakdown : lenient.breakdown = strict.breakdown

variable (outcomes : List Outcome)

/-- What the latencies are taken from is not counted. -/
theorem countsAlike_of (policy : CancelledPolicy) (basis basis' : LatencyBasis) :
    (Summary.of outcomes ⟨policy, basis⟩).CountsAlike (Summary.of outcomes ⟨policy, basis'⟩) := by
  have same : outcomes.filter (SummaryOptions.mk policy basis).countsAsSuccess =
      outcomes.filter (SummaryOptions.mk policy basis').countsAsSuccess := by
    rw [SummaryOptions.filter_countsAsSuccess, SummaryOptions.filter_countsAsSuccess]
  have succeeded : (Summary.of outcomes ⟨policy, basis⟩).succeeded =
      (Summary.of outcomes ⟨policy, basis'⟩).succeeded := congrArg List.length same
  refine ⟨rfl, succeeded, congrArg (outcomes.length - ·) succeeded, ?_, rfl⟩
  exact congrArg (ratio · outcomes.length) succeeded

theorem pardons_of (basis : LatencyBasis) :
    (Summary.of outcomes ⟨.asSuccess, basis⟩).Pardons (Summary.of outcomes ⟨.asFailure, basis⟩) := by
  have lenient := succeeded_of outcomes ⟨.asSuccess, basis⟩
  have strict := succeeded_of outcomes ⟨.asFailure, basis⟩
  have succeeded : (Summary.of outcomes ⟨.asSuccess, basis⟩).succeeded =
      (Summary.of outcomes ⟨.asFailure, basis⟩).succeeded +
        (Summary.of outcomes ⟨.asFailure, basis⟩).breakdown.cancelled :=
    lenient.trans (congrArg (· + _) strict).symm
  -- what is not a success is a failure, so these fall by as much as the successes rise
  have rest := failed_add_succeeded outcomes ⟨.asSuccess, basis⟩
  have rest' := failed_add_succeeded outcomes ⟨.asFailure, basis⟩
  have total : (Summary.of outcomes ⟨.asSuccess, basis⟩).total =
      (Summary.of outcomes ⟨.asFailure, basis⟩).total := rfl
  exact ⟨total, succeeded, by omega, rfl⟩

/-- **The options act apart.** The basis of the latencies has no say in the counts. Where it is the successes alone,
the latencies are those of the outcomes that count as such, which are all zero if there are none, and their maximum is
not above that of all outcomes. The policy for cancelled tasks moves these from the failures to the successes, and has
no say in the latencies of all outcomes. No figure is without a value, for as many outcomes as a word can count. -/
theorem options_apart :
    (∀ policy basis basis',
      (Summary.of outcomes ⟨policy, basis⟩).CountsAlike (Summary.of outcomes ⟨policy, basis'⟩)) ∧
    (∀ policy policy', (Summary.of outcomes ⟨policy, .successesOnly⟩).latency =
      (Summary.of (policy.counted outcomes) ⟨policy', .allOutcomes⟩).latency) ∧
    (∀ policy, policy.counted outcomes = [] →
      ∀ figure ∈ (Summary.of outcomes ⟨policy, .successesOnly⟩).latency.figures, figure = Double.zero) ∧
    (outcomes.length < UInt64.size →
      ∀ options, ∀ figure ∈ (Summary.of outcomes options).latency.figures, figure.isNaN = false) ∧
    (∀ policy policy', (Summary.of outcomes ⟨policy, .successesOnly⟩).latency.maximum.le
      (Summary.of outcomes ⟨policy', .allOutcomes⟩).latency.maximum = true) ∧
    (∀ basis, (Summary.of outcomes ⟨.asSuccess, basis⟩).Pardons (Summary.of outcomes ⟨.asFailure, basis⟩)) ∧
    (Summary.of outcomes ⟨.asSuccess, .allOutcomes⟩).latency =
      (Summary.of outcomes ⟨.asFailure, .allOutcomes⟩).latency := by
  refine ⟨countsAlike_of outcomes, ?counted, ?none, ?numbers, ?maximum, pardons_of outcomes, ?all⟩
  case counted =>
    intro policy policy'
    rw [latency_successesOnly, latency_allOutcomes]
  case none =>
    intro policy none figure member
    rw [latency_successesOnly, none] at member
    change figure ∈ (LatencyStats.ofSamples []).figures at member
    -- without samples all four figures are zero
    rw [LatencyStats.ofSamples_nil] at member
    exact List.eq_of_mem_replicate (n := 4) member
  case numbers =>
    intro fits options figure member
    have few : (outcomes.filter options.contributes).length ≤ outcomes.length := List.length_filter_le _ _
    refine (LatencyStats.isSize_figures (isSize_of_mem_samples _) ?_ figure member).isNaN
    rw [samples, List.length_map]
    exact Nat.lt_of_le_of_lt few fits
  case maximum =>
    intro policy policy'
    rw [latency_successesOnly, latency_allOutcomes]
    refine LatencyStats.maximum_le_of_subset (isSize_of_mem_samples outcomes) ?_
    exact List.map_subset _ List.filter_sublist.subset
  case all => rw [latency_allOutcomes, latency_allOutcomes]

/-- A failed task and a cancelled one. -/
def unsuccessful : List Outcome :=
  [.failure "refused" (Nanos.ofMillis 7), .cancelled (Snapshot.ofStatus .cancelled) (Nanos.ofMillis 2)]

/-- Under the strict policy none of them is a success; under the lenient one there are latencies of one of them. -/
theorem options_apart_of_unsuccessful :
    (CancelledPolicy.asFailure.counted unsuccessful = [] ∧ unsuccessful.length < UInt64.size) ∧
      (∀ figure ∈ (Summary.of unsuccessful ⟨.asFailure, .successesOnly⟩).latency.figures, figure = Double.zero) ∧
      (Summary.of unsuccessful ⟨.asSuccess, .successesOnly⟩).latency.maximum = Double.ofNat 2 ∧
      (Summary.of unsuccessful ⟨.asSuccess, .successesOnly⟩).latency.average.isNaN = false ∧
      (Summary.of unsuccessful ⟨.asSuccess, .allOutcomes⟩).succeeded = 1 := by
  have none : CancelledPolicy.asFailure.counted unsuccessful = [] := by decide
  have fits : unsuccessful.length < UInt64.size := by decide
  obtain ⟨-, counted, zero, numbers, -, pardons, -⟩ := options_apart unsuccessful
  have single : CancelledPolicy.asSuccess.counted unsuccessful =
      [.cancelled (Snapshot.ofStatus .cancelled) (Nanos.ofMillis 2)] := rfl
  refine ⟨⟨none, fits⟩, zero .asFailure none, ?_, numbers fits _ _ List.mem_cons_self, (pardons .allOutcomes).succeeded⟩
  rw [counted .asSuccess .asFailure, single]
  decide +kernel

end Summary

end ServiceProbe
