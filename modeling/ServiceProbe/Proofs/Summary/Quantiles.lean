import ServiceProbe.Proofs.Summary.Options

/-!
# The sample at a quantile

A quantile is any double, and the place of its sample goes through a rounded product, a floor and a bound. For fewer
than 2⁵³ samples the number of samples is a double as it is, and all three keep the order. So the places of quantiles
are in the order of these, from the first place for what is not above zero to the last one for what is not below one.

* `rankOf_eq_zero`, `rankOf_eq_last`, `rankOf_le_rankOf` — the places at both ends, and their order;
* `nearestRank_selects_sample` — the samples at these places, whether in order or not.
-/

namespace ServiceProbe

open Number (Double)

/-- The place of the sample at a quantile, among so many samples. -/
def rankOf (count : Nat) (quantile : Double) : Nat :=
  min ((Double.ofNat count).mul quantile).floorIndex (count - 1)

/-! ### Places -/

section Places

variable {count : Nat} {quantile quantile' : Double}

theorem rankOf_lt (pos : 0 < count) (quantile : Double) : rankOf count quantile < count :=
  Nat.lt_of_le_of_lt (Nat.min_le_right _ _) (Nat.sub_one_lt_of_lt pos)

/-- The number of samples is a positive number, and finite. -/
theorem Number.Double.counts_ofNat (pos : 0 < count) (fits : count < 2 ^ 53) :
    (ofNat count).IsSize ∧ (ofNat count).isInfinite = false ∧ (ofNat count).isZero = false :=
  ⟨isSize_ofRatio count 1, finite_pos_ofNat pos.ne' (Nat.lt_trans fits (by decide))⟩

/-- What is no number, or not above zero, has the first place. -/
theorem rankOf_eq_zero (pos : 0 < count) (fits : count < 2 ^ 53)
    (low : quantile.isNaN = true ∨ quantile.le Double.zero = true) : rankOf count quantile = 0 := by
  obtain ⟨isSize, finite, -⟩ := Double.counts_ofNat pos fits
  rw [rankOf, isSize.floorIndex_mul_eq_zero finite (low.imp_right Double.low_of_le_zero)]
  exact Nat.zero_min _

/-- The places are in the order of the quantiles. -/
theorem rankOf_le_rankOf (pos : 0 < count) (fits : count < 2 ^ 53) (h : quantile.le quantile' = true) :
    rankOf count quantile ≤ rankOf count quantile' := by
  obtain ⟨isSize, finite, notZero⟩ := Double.counts_ofNat pos fits
  exact min_le_min_right (count - 1) (isSize.floorIndex_mul_le finite notZero h)

/-- What is not below one has the last place: the whole number of samples is behind it already. -/
theorem rankOf_eq_last (pos : 0 < count) (fits : count < 2 ^ 53) (high : (Double.ofNat 1).le quantile = true) :
    rankOf count quantile = count - 1 := by
  have whole : rankOf count (Double.ofNat 1) = count - 1 := by
    rw [rankOf, Double.ofNat_mul_one pos.ne' fits, Double.floorIndex_ofNat pos.ne' fits]
    exact Nat.min_eq_right (Nat.sub_le _ _)
  refine Nat.le_antisymm (Nat.min_le_right _ _) ?_
  -- so what is larger than one cannot have an earlier place
  rw [← whole]
  exact rankOf_le_rankOf pos fits high

end Places

/-! ### Samples -/

variable {samples : List Double}

theorem nearestRank_nil (quantile : Double) : nearestRank [] quantile = Double.zero := by
  rw [nearestRank, List.getD_eq_getElem?_getD, List.getElem?_nil, Option.getD_none]

/-- The sample is the one at the place of the quantile, which there is. -/
theorem getElem?_rankOf (notEmpty : samples ≠ []) (quantile : Double) :
    samples[rankOf samples.length quantile]? = some (nearestRank samples quantile) := by
  have within := rankOf_lt (List.length_pos_iff.2 notEmpty) quantile
  rw [nearestRank, List.getD_eq_getElem?_getD, ← rankOf, List.getElem?_eq_getElem within, Option.getD_some]

/-- Of ascending samples, what stands further on is not less. -/
theorem totalLe_of_getElem? {place place' : Nat} {sample sample' : Double}
    (ascending : samples.Pairwise fun sample sample' => sample.totalLe sample' = true)
    (stands : samples[place]? = some sample) (stands' : samples[place']? = some sample') (h : place ≤ place') :
    sample.totalLe sample' = true := by
  obtain ⟨within, rfl⟩ := List.getElem?_eq_some_iff.1 stands
  obtain ⟨within', rfl⟩ := List.getElem?_eq_some_iff.1 stands'
  rcases Nat.lt_or_eq_of_le h with before | rfl
  · exact List.pairwise_iff_getElem.1 ascending place place' within within' before
  · exact Double.totalLe_iff.2 (Nat.le_refl _)

/-- **The sample at a quantile.** Of no samples there is zero. Of fewer than 2⁵³ samples, in any order, there is one of
them for every quantile, infinities and what is no number included: the first for what is no number or not above zero,
and the last for what is not below one. Of ascending samples, a larger quantile does not have a smaller one. -/
theorem nearestRank_selects_sample (fits : samples.length < 2 ^ 53) (quantile : Double) :
    (samples = [] → nearestRank samples quantile = Double.zero) ∧
    (samples ≠ [] →
      rankOf samples.length quantile < samples.length ∧
      samples[rankOf samples.length quantile]? = some (nearestRank samples quantile) ∧
      nearestRank samples quantile ∈ samples ∧
      (quantile.isNaN = true ∨ quantile.le Double.zero = true →
        samples.head? = some (nearestRank samples quantile)) ∧
      ((Double.ofNat 1).le quantile = true → samples.getLast? = some (nearestRank samples quantile))) ∧
    (samples.Pairwise (fun sample sample' => sample.totalLe sample' = true) →
      ∀ quantile', quantile.le quantile' = true →
        (nearestRank samples quantile).totalLe (nearestRank samples quantile') = true) := by
  refine ⟨?_, fun notEmpty => ?_, fun ascending quantile' h => ?_⟩
  · rintro rfl
    exact nearestRank_nil quantile
  · have pos : 0 < samples.length := List.length_pos_iff.2 notEmpty
    have stands := getElem?_rankOf notEmpty quantile
    refine ⟨rankOf_lt pos quantile, stands, nearestRank_mem notEmpty quantile, fun low => ?_, fun high => ?_⟩
    · rw [← stands, rankOf_eq_zero pos fits low, List.head?_eq_getElem?]
    · rw [← stands, rankOf_eq_last pos fits high, List.getLast?_eq_getElem?]
  · -- with samples, a greater quantile gives no smaller rank
    by_cases isEmpty : samples = []
    · rw [isEmpty, nearestRank_nil, nearestRank_nil]
      exact Double.totalLe_iff.2 (Nat.le_refl _)
    · exact totalLe_of_getElem? ascending (getElem?_rankOf isEmpty quantile) (getElem?_rankOf isEmpty quantile')
        (rankOf_le_rankOf (List.length_pos_iff.2 isEmpty) fits h)

/-- Four samples in the total order, which goes from minus zero over one and infinity to what is no number. -/
def fourSamples : List Double :=
  [Double.negativeZero, Double.ofNat 1, Double.infinity, Double.nan]

/-- What is no number has the first place, and infinity does not lead beyond the last one. -/
theorem nearestRank_selects_sample_of_four :
    (fourSamples.length < 2 ^ 53 ∧ fourSamples ≠ []) ∧
      (Double.nan.isNaN = true ∧ fourSamples.head? = some (nearestRank fourSamples Double.nan)) ∧
      ((Double.ofNat 1).le Double.infinity = true ∧
        fourSamples.getLast? = some (nearestRank fourSamples Double.infinity)) ∧
      (fourSamples.Pairwise (fun sample sample' => sample.totalLe sample' = true) ∧
        (Double.ofRatio false 1 2).le Double.infinity = true ∧
        (nearestRank fourSamples (Double.ofRatio false 1 2)).totalLe (nearestRank fourSamples Double.infinity) =
          true) := by
  have fits : fourSamples.length < 2 ^ 53 := by decide
  have notEmpty : fourSamples ≠ [] := by decide
  have noNumber : Double.nan.isNaN = true := by decide
  have high : (Double.ofNat 1).le Double.infinity = true := by decide +kernel
  have half : (Double.ofRatio false 1 2).le Double.infinity = true := by decide +kernel
  have ascending : fourSamples.Pairwise fun sample sample' => sample.totalLe sample' = true := by decide +kernel
  obtain ⟨-, -, -, first, -⟩ := (nearestRank_selects_sample fits Double.nan).2.1 notEmpty
  obtain ⟨-, -, -, -, last⟩ := (nearestRank_selects_sample fits Double.infinity).2.1 notEmpty
  exact ⟨⟨fits, notEmpty⟩, ⟨noNumber, first (.inl noNumber)⟩, ⟨high, last high⟩, ascending, half,
    (nearestRank_selects_sample fits (Double.ofRatio false 1 2)).2.2 ascending Double.infinity half⟩

end ServiceProbe
