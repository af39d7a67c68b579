import ServiceProbe.Proofs.Number.Floor
import ServiceProbe.Proofs.Summary.Order

/-!
# Percentiles as order statistics

The figures of a summary are computed with doubles: each latency is a rounded quotient, and the place of a
percentile is the floor of a rounded product. They are the exact order statistics of the latencies all the same.
Rounding keeps the order of the latencies, and the floor is that of the exact product as long as there are fewer
than 2⁴⁷ outcomes.

* `Nanos.milliseconds_totalLe` — longer spans do not become smaller doubles;
* `LatencyStats.sorted_map_milliseconds` — so the samples in order are those of the spans in order;
* `nearestRank_of_liesBelow` — the sample at a quantile stands at the floor of the exact product;
* `Summary.latency_of_ascending` — the longest latency and both percentiles are those of the spans in order.
-/

namespace ServiceProbe

open Number (Double)

namespace Nanos

theorem isSize_perMilli : (Double.ofNat perMilli).IsSize :=
  Double.isSize_ofRatio perMilli 1

theorem isSize_milliseconds (span : Nanos) : span.milliseconds.IsSize :=
  (Double.isSize_ofRatio span 1).isSize_div isSize_perMilli (by decide +kernel) (by decide +kernel)

/-- A longer span does not become a smaller number of milliseconds. -/
theorem milliseconds_totalLe {span span' : Nanos} (h : span ≤ span') :
    span.milliseconds.totalLe span'.milliseconds = true := by
  have isSize := Double.isSize_ofRatio span 1
  have isSize' := Double.isSize_ofRatio span' 1
  refine isSize.div_totalLe_div isSize' isSize_perMilli (by decide +kernel) (by decide +kernel) ?_
  refine (isSize.totalLe_iff isSize').2 ?_
  rw [Double.magnitude_ofRatio, Double.magnitude_ofRatio]
  exact Double.nearest_le_nearest h 1

theorem milliseconds_le {span span' : Nanos} (h : span ≤ span') :
    span.milliseconds.le span'.milliseconds = true :=
  (isSize_milliseconds span).le_of_totalLe (isSize_milliseconds span') (milliseconds_totalLe h)

end Nanos

/-! ### Quantiles -/

/-- The sample at a quantile stands at the floor of the exact multiple of its fraction. -/
theorem nearestRank_of_liesBelow {quantile : Double} {part whole digits : Nat}
    (h : quantile.LiesBelow part whole digits) (most : 17 ≤ part) (few : whole ≤ 100) {samples : List Double}
    (notEmpty : samples ≠ []) (fits : samples.length < 2 ^ 47) :
    samples[part * samples.length / whole]? = some (nearestRank samples quantile) := by
  have pos : 0 < samples.length := List.length_pos_iff.2 notEmpty
  have within : part * samples.length / whole < samples.length :=
    Nat.div_lt_of_lt_mul (Nat.mul_lt_mul_of_pos_right h.part_lt pos)
  rw [nearestRank, h.floorIndex_mul most few pos.ne' fits, Nat.min_eq_left (Nat.le_sub_one_of_lt within),
    List.getD_eq_getElem?_getD, List.getElem?_eq_getElem within, Option.getD_some]

/-! ### Spans in order -/

section Ascending

variable {spans spans' : List Nanos} {span span' : Nanos}

/-- Of an ascending list, what stands further on is not less. -/
theorem le_of_getElem? (ascending : spans.Pairwise (· ≤ ·)) {place place' : Nat} (stands : spans[place]? = some span)
    (stands' : spans[place']? = some span') (h : place ≤ place') : span ≤ span' := by
  obtain ⟨within, rfl⟩ := List.getElem?_eq_some_iff.1 stands
  obtain ⟨within', rfl⟩ := List.getElem?_eq_some_iff.1 stands'
  rcases Nat.lt_or_eq_of_le h with before | rfl
  · exact List.pairwise_iff_getElem.1 ascending place place' within within' before
  · exact Nat.le_refl _

theorem min?_of_ascending (perm : spans.Perm spans') (ascending : spans.Pairwise (· ≤ ·))
    (first : spans[0]? = some span) : spans'.min? = some span := by
  refine List.min?_eq_some_iff.2 ⟨perm.mem_iff.1 (List.mem_of_getElem? first), fun other member => ?_⟩
  obtain ⟨place, stands⟩ := List.getElem?_of_mem (perm.mem_iff.2 member)
  exact le_of_getElem? ascending first stands (Nat.zero_le _)

theorem max?_of_ascending (perm : spans.Perm spans') (ascending : spans.Pairwise (· ≤ ·))
    (last : spans[spans.length - 1]? = some span) : spans'.max? = some span := by
  refine List.max?_eq_some_iff.2 ⟨perm.mem_iff.1 (List.mem_of_getElem? last), fun other member => ?_⟩
  obtain ⟨place, stands⟩ := List.getElem?_of_mem (perm.mem_iff.2 member)
  have within := (List.getElem?_eq_some_iff.1 stands).1
  exact le_of_getElem? ascending stands last (Nat.le_sub_one_of_lt within)

end Ascending

/-! ### Samples in order -/

namespace LatencyStats

/-- The samples of spans, in the total order, are the samples of the spans in ascending order. -/
theorem sorted_map_milliseconds {spans spans' : List Nanos} (perm : spans.Perm spans')
    (ascending : spans.Pairwise (· ≤ ·)) :
    sorted (spans'.map Nanos.milliseconds) = spans.map Nanos.milliseconds :=
  sorted_eq_of_ascending (perm.map Nanos.milliseconds)
    (List.pairwise_map.2 (ascending.imp fun h => Nanos.milliseconds_totalLe h))

/-- The figures of samples, from the samples in order. -/
theorem ofSamples_of_sorted {samples ascending : List Double} (isSorted : sorted samples = ascending)
    (notEmpty : ascending ≠ []) :
    ascending.getLast? = some (ofSamples samples).maximum ∧
      nearestRank ascending (Double.ofRatio false 95 100) = (ofSamples samples).p95 ∧
      nearestRank ascending (Double.ofRatio false 99 100) = (ofSamples samples).p99 := by
  rw [ofSamples_eq_of_sorted isSorted notEmpty]
  exact ⟨List.getLast?_eq_some_getLast notEmpty, rfl, rfl⟩

end LatencyStats

/-! ### Summaries -/

namespace Summary

/-- **Percentiles.** The figures of fewer than 2⁴⁷ outcomes are the milliseconds of spans, each of which is found
among the latencies in ascending order by whole numbers alone: the last one, and those at 95 and at 99 hundredths
of their number. So they ascend themselves, from the shortest latency to the longest. -/
theorem latency_of_ascending {outcomes : List Outcome} {spans : List Nanos} (notEmpty : outcomes ≠ [])
    (fits : outcomes.length < 2 ^ 47) (perm : spans.Perm (outcomes.map Outcome.latency))
    (ascending : spans.Pairwise (· ≤ ·)) :
    ∃ shortest early late longest : Nanos,
      (outcomes.map Outcome.latency).min? = some shortest ∧
      spans[95 * outcomes.length / 100]? = some early ∧
      spans[99 * outcomes.length / 100]? = some late ∧
      (outcomes.map Outcome.latency).max? = some longest ∧
      (Summary.of outcomes {}).latency.p95 = early.milliseconds ∧
      (Summary.of outcomes {}).latency.p99 = late.milliseconds ∧
      (Summary.of outcomes {}).latency.maximum = longest.milliseconds ∧
      shortest.milliseconds.le (Summary.of outcomes {}).latency.p95 = true ∧
      (Summary.of outcomes {}).latency.p95.le (Summary.of outcomes {}).latency.p99 = true ∧
      (Summary.of outcomes {}).latency.p99.le (Summary.of outcomes {}).latency.maximum = true := by
  have length : spans.length = outcomes.length := perm.length_eq.trans (List.length_map ..)
  have pos : 0 < spans.length := length ▸ List.length_pos_iff.2 notEmpty
  have latency : (Summary.of outcomes {}).latency =
      LatencyStats.ofSamples ((outcomes.map Outcome.latency).map Nanos.milliseconds) := by
    have all : outcomes.filter ({} : SummaryOptions).contributes = outcomes :=
      List.filter_eq_self.2 fun outcome _ => Bool.or_true _
    rw [Summary.of, all, List.map_map]
    rfl
  -- the figures are samples in order, and each of them is that of a span
  have samples : (spans.map Nanos.milliseconds).length = spans.length := List.length_map ..
  have isSome : spans.map Nanos.milliseconds ≠ [] := List.length_pos_iff.1 (samples ▸ pos)
  have isShort : (spans.map Nanos.milliseconds).length < 2 ^ 47 := samples ▸ length ▸ fits
  obtain ⟨maximum, p95, p99⟩ :=
    LatencyStats.ofSamples_of_sorted (LatencyStats.sorted_map_milliseconds perm ascending) isSome
  have rank95 := nearestRank_of_liesBelow Double.liesBelow_95 (by decide) (by decide) isSome isShort
  have rank99 := nearestRank_of_liesBelow Double.liesBelow_99 (by decide) (by decide) isSome isShort
  rw [p95, samples, List.getElem?_map, ← latency] at rank95
  rw [p99, samples, List.getElem?_map, ← latency] at rank99
  rw [List.getLast?_map, ← latency, List.getLast?_eq_getElem?] at maximum
  obtain ⟨early, atEarly, isEarly⟩ := Option.map_eq_some_iff.1 rank95
  obtain ⟨late, atLate, isLate⟩ := Option.map_eq_some_iff.1 rank99
  obtain ⟨longest, atLongest, isLongest⟩ := Option.map_eq_some_iff.1 maximum
  obtain ⟨shortest, atShortest⟩ : ∃ shortest, spans[0]? = some shortest := ⟨_, List.getElem?_eq_getElem pos⟩
  have hundredths : 95 * outcomes.length / 100 = 19 * spans.length / 20 := by omega
  have least : shortest ≤ early := le_of_getElem? ascending atShortest atEarly (Nat.zero_le _)
  have middle : early ≤ late := le_of_getElem? ascending atEarly atLate (by omega)
  have most : late ≤ longest := le_of_getElem? ascending atLate atLongest (by omega)
  refine ⟨shortest, early, late, longest, min?_of_ascending perm ascending atShortest, hundredths ▸ atEarly,
    length ▸ atLate, max?_of_ascending perm ascending atLongest, isEarly.symm, isLate.symm, isLongest.symm, ?_⟩
  rw [← isEarly, ← isLate, ← isLongest]
  exact ⟨Nanos.milliseconds_le least, Nanos.milliseconds_le middle, Nanos.milliseconds_le most⟩

/-- A hundred outcomes, each of which took a nanosecond less than the one before. -/
def quicker : List Outcome :=
  (List.range 100).map fun n => .timedOut 1 (100 - n)

/-- The exact multiples 95 and 99 of the fractions are whole here, so a floor below them would show. -/
theorem latency_of_ascending_quicker :
    (quicker ≠ [] ∧ quicker.length < 2 ^ 47) ∧
      ((List.range' 1 100).Perm (quicker.map Outcome.latency) ∧ (List.range' 1 100).Pairwise (· ≤ ·)) ∧
      (Summary.of quicker {}).latency.p95 = Nanos.milliseconds 96 ∧
      (Summary.of quicker {}).latency.p99 = Nanos.milliseconds 100 ∧
      (Summary.of quicker {}).latency.maximum = Nanos.milliseconds 100 := by
  have notEmpty : quicker ≠ [] := by decide
  have fits : quicker.length < 2 ^ 47 := by decide
  have perm : (List.range' 1 100).Perm (quicker.map Outcome.latency) := by decide +kernel
  have ascending : (List.range' 1 100).Pairwise (· ≤ ·) := by decide +kernel
  obtain ⟨shortest, early, late, longest, -, atEarly, atLate, isLongest, p95, p99, maximum, -⟩ :=
    latency_of_ascending notEmpty fits perm ascending
  obtain rfl : early = 96 := Option.some.inj (atEarly.symm.trans (by decide +kernel))
  obtain rfl : late = 100 := Option.some.inj (atLate.symm.trans (by decide +kernel))
  obtain rfl : longest = 100 := Option.some.inj (isLongest.symm.trans (by decide +kernel))
  exact ⟨⟨notEmpty, fits⟩, ⟨perm, ascending⟩, p95, p99, maximum⟩

end Summary

end ServiceProbe
