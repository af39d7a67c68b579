import ServiceProbe.Proofs.Number.Monotone

/-!
# The floor of a rounded multiple

The double of a fraction such as 95/100 is not that fraction, and where it lies below, a whole multiple of the
fraction may become a product just below a whole number, whose floor is one less. Rounding the product mends this,
as long as the product has digits to spare behind the point: the distance to the whole number is then less than the
half of a step.

Neither the product nor the floor breaks the order of numbers. So a larger multiple of a number does not have a smaller
floor, also where the number is multiplied with infinity.

* `Double.units_ofRatio_two_pow` — a whole number over a power of two is rounded as it is without the power;
* `Double.LiesBelow` — what it is for a double to lie just below a fraction;
* `Double.LiesBelow.floorIndex_mul` — the floor of its product with a whole number below 2⁴⁷ is that of the exact
  product with the fraction;
* `Double.IsSize.floorIndex_mul_le`, `Double.IsSize.floorIndex_mul_eq_zero` — the floors of multiples of a number are in
  the order of what it is multiplied with, and zero where this is not above zero.
-/

namespace ServiceProbe.Number

/-- A whole number near to a multiple of a step becomes that multiple or one above it, if the distance below is less
than half a step. -/
theorem le_roundDiv_mul {num step goal : Nat} (pos : 0 < step) (whole : step ∣ goal)
    (near : 2 * goal < 2 * num + step) : goal ≤ roundDiv num step * step := by
  obtain ⟨size, rfl⟩ := whole
  rw [Nat.mul_comm step] at near ⊢
  by_contra less
  have below : roundDiv num step + 1 ≤ size := Nat.lt_of_mul_lt_mul_right (Nat.not_le.1 less)
  have room := Nat.mul_le_mul_right step below
  rw [Nat.add_mul] at room
  have := (roundDiv_near num pos).2
  omega

namespace Double

/-! ### Whole numbers over powers of two -/

/-- A whole number over a power of two is rounded to 53 binary digits as it is without the power. -/
theorem nearest_two_pow {n k : Nat} (large : fractions ≤ n) (most : k ≤ 1074) :
    nearest n (2 ^ k) =
      min ((excess n + (1074 - k)) * fractions + roundDiv n (2 ^ excess n)) infinityBits := by
  have pos : n ≠ 0 := (Nat.lt_of_lt_of_le (by decide) large).ne'
  have units : unitsPerOne = 2 ^ (1074 - k) * 2 ^ k := by
    rw [unitsPerOne, Nat.one_shiftLeft, ← Nat.pow_add, Nat.sub_add_cancel most]
  -- a division by a power of two moves the step by its exponent
  have step : stepOf n (2 ^ k) = excess n + (1074 - k) := by
    rw [stepOf, units, ← Nat.mul_assoc, Nat.mul_div_cancel _ (Nat.two_pow_pos k), ← Nat.one_shiftLeft,
      log2_shiftLeft pos, log2_eq_of_le large]
    omega
  have shifted : 2 ^ k <<< (excess n + (1074 - k)) = 2 ^ excess n * (2 ^ (1074 - k) * 2 ^ k) := by
    rw [Nat.shiftLeft_eq, Nat.pow_add]
    ring
  rw [nearest_eq, fractionOf, step, shifted, units,
    roundDiv_mul_right _ _ (Nat.mul_pos (Nat.two_pow_pos _) (Nat.two_pow_pos _))]

/-- The value of a whole number over a power of two: the number is rounded to a multiple of its step. -/
theorem units_ofRatio_two_pow {n k : Nat} (large : fractions ≤ n) (few : excess n < 971) (most : k ≤ 1074) :
    (ofRatio false n (2 ^ k)).isInfinite = false ∧
      (ofRatio false n (2 ^ k)).units * 2 ^ k = roundDiv n (2 ^ excess n) * 2 ^ excess n * unitsPerOne := by
  obtain ⟨low, high⟩ := fraction_bounds large
  -- few excess digits keep the number far below the infinite ones
  have finite : (excess n + (1074 - k)) * fractions + roundDiv n (2 ^ excess n) < infinityBits := by
    unfold infinityBits fractions at *
    omega
  have isNearest := nearest_two_pow large most
  rw [Nat.min_eq_left finite.le] at isNearest
  constructor
  · rw [isInfinite_ofRatio, isNearest, decide_eq_true finite]
    rfl
  · rw [units, magnitude_ofRatio, isNearest, unitsOf_step _ low high, Nat.shiftLeft_eq, unitsPerOne,
      Nat.one_shiftLeft, Nat.pow_add, ← Nat.mul_assoc, Nat.mul_assoc _ (2 ^ (1074 - k)), ← Nat.pow_add,
      Nat.sub_add_cancel most]

/-- A whole number of at most 53 binary digits is not rounded. -/
theorem units_ofNat {n : Nat} (pos : n ≠ 0) (exact : n < 2 ^ 53) :
    (ofNat n).isInfinite = false ∧ (ofNat n).units = n * unitsPerOne := by
  have digits : n.log2 ≤ 52 := Nat.lt_succ_iff.1 ((Nat.log2_lt pos).2 exact)
  -- the number is taken with 52 binary digits more and divided again
  have same : ofNat n = ofRatio false (n * 2 ^ 52) (2 ^ 52) := by
    rw [ofNat, ofRatio, ofRatio, ← nearest_mul_right n 1 (Nat.two_pow_pos 52), Nat.one_mul]
  have large : fractions ≤ n * 2 ^ 52 := Nat.le_mul_of_pos_left (2 ^ 52) (Nat.pos_of_ne_zero pos)
  have step : excess (n * 2 ^ 52) = n.log2 := by
    rw [excess, ← Nat.one_shiftLeft, log2_shiftLeft pos, Nat.add_sub_cancel]
  have whole : roundDiv (n * 2 ^ 52) (2 ^ n.log2) * 2 ^ n.log2 = n * 2 ^ 52 := by
    rw [Nat.mul_comm]
    exact roundDiv_of_dvd (Nat.two_pow_pos _) (Nat.dvd_mul_left_of_dvd (Nat.pow_dvd_pow 2 digits) n)
  obtain ⟨finite, value⟩ := units_ofRatio_two_pow large (by omega) (show 52 ≤ 1074 by decide)
  rw [step, whole, Nat.mul_right_comm] at value
  rw [same]
  exact ⟨finite, Nat.eq_of_mul_eq_mul_right (Nat.two_pow_pos 52) value⟩

/-! ### Products with fractions -/

/-- The double has the 53 binary digits `digits` behind the point, and lies below `part / whole`, by eight parts of
which there are `whole · 2⁵³`. -/
structure LiesBelow (x : Double) (part whole digits : Nat) : Prop where
  size : x.IsSize
  isInfinite : x.isInfinite = false
  units_eq : x.units * 2 ^ 53 = digits * unitsPerOne
  normal : fractions ≤ digits
  gap : whole * digits + 8 = part * 2 ^ 53
  part_lt : part < whole

namespace LiesBelow

variable {x : Double} {part whole digits n : Nat}

theorem digits_lt (h : x.LiesBelow part whole digits) : digits < 2 ^ 53 := by
  have below := Nat.mul_le_mul_right (2 ^ 53) h.part_lt.le
  have gap := h.gap
  by_contra most
  have above := Nat.mul_le_mul_left whole (Nat.not_lt.1 most)
  omega

/-- The product with a whole number is the nearest to the product of the digits. -/
theorem mul_eq (h : x.LiesBelow part whole digits) (pos : n ≠ 0) (exact : n < 2 ^ 53) :
    (ofNat n).mul x = ofRatio false (n * digits) (2 ^ 53) := by
  obtain ⟨finite, value⟩ := units_ofNat pos exact
  have scaled : 0 < unitsPerOne * unitsPerOne := Nat.mul_pos unitsPerOne_pos unitsPerOne_pos
  have isSize : (ofNat n).IsSize := isSize_ofRatio n 1
  have product : n * unitsPerOne * x.units * 2 ^ 53 = n * digits * (unitsPerOne * unitsPerOne) := by
    rw [Nat.mul_assoc _ x.units, h.units_eq]
    ring
  rw [isSize.mul_eq h.size finite h.isInfinite, value, ofRatio, ofRatio,
    ← nearest_mul_right _ _ (Nat.two_pow_pos 53), ← nearest_mul_right (n * digits) _ scaled, product,
    Nat.mul_comm (2 ^ 53)]

theorem le_product (h : x.LiesBelow part whole digits) (pos : n ≠ 0) : fractions ≤ n * digits :=
  Nat.le_trans h.normal (Nat.le_mul_of_pos_left _ (Nat.pos_of_ne_zero pos))

/-- The product with a whole number below 2⁴⁷ has at most 47 binary digits more than are kept. -/
theorem excess_le (h : x.LiesBelow part whole digits) (pos : n ≠ 0) (fits : n < 2 ^ 47) :
    excess (n * digits) ≤ 47 := by
  have large := h.le_product pos
  have notZero : n * digits ≠ 0 := (Nat.lt_of_lt_of_le (by decide) large).ne'
  have bounded : n * digits < 2 ^ 47 * 2 ^ 53 := Nat.mul_lt_mul'' fits h.digits_lt
  have length := (Nat.log2_lt notZero).2 (Nat.pow_add 2 47 53 ▸ bounded)
  rw [log2_eq_of_le large] at length
  omega

/-- It is rounded to a number with the floor of the multiple of the fraction. -/
theorem roundDiv_div (h : x.LiesBelow part whole digits) (most : 17 ≤ part) (few : whole ≤ 100) (pos : n ≠ 0)
    (fits : n < 2 ^ 47) :
    roundDiv (n * digits) (2 ^ excess (n * digits)) * 2 ^ excess (n * digits) / 2 ^ 53 = part * n / whole := by
  have step := h.excess_le pos fits
  have below : n * digits < 2 ^ excess (n * digits) * 2 ^ 53 := by
    have length := Nat.lt_log2_self (n := n * digits)
    rwa [log2_eq_of_le (h.le_product pos), Nat.add_assoc, Nat.pow_add] at length
  have divides : 2 ^ excess (n * digits) ∣ 2 ^ 53 := Nat.pow_dvd_pow 2 (by omega)
  have small : 2 ^ excess (n * digits) ≤ 2 ^ 47 := Nat.pow_le_pow_right Nat.two_pos step
  have some : 0 < 2 ^ excess (n * digits) := Nat.two_pow_pos _
  -- what the product lies below the exact quotient, as a multiple of the denominator
  have exact : whole * (n * digits) + 8 * n = part * n * 2 ^ 53 := by
    rw [Nat.mul_right_comm, ← h.gap]
    ring
  have positive : 0 < whole := Nat.zero_lt_of_lt h.part_lt
  have division := Nat.div_add_mod (part * n) whole
  have rest := Nat.mod_lt (part * n) positive
  generalize n * digits = product at *
  generalize 2 ^ excess product = unit at *
  generalize part * n / whole = floor at *
  -- in both directions the distances are compared as multiples of the denominator
  refine Nat.div_eq_of_lt_le ?_ ?_
  · refine le_roundDiv_mul some (Nat.dvd_mul_left_of_dvd divides floor) ?_
    -- rounding up crosses no whole number, since the product lies only a little below the quotient
    have least : 17 * n ≤ part * n := Nat.mul_le_mul_right n most
    have spread : whole * product < whole * unit * 2 ^ 53 := by
      rw [Nat.mul_assoc]
      exact Nat.mul_lt_mul_of_pos_left below positive
    refine Nat.lt_of_mul_lt_mul_left (a := whole) ?_
    calc whole * (2 * (floor * 2 ^ 53))
        = 2 * (whole * floor * 2 ^ 53) := by ring
      _ < 2 * (whole * product) + whole * unit := by omega
      _ = whole * (2 * product + unit) := by ring
  · -- rounding either way stays below the next one, for the rest is at most the denominator less one
    have widest : whole * unit ≤ 100 * 2 ^ 47 := Nat.mul_le_mul few small
    have near : 2 * (whole * (roundDiv product unit * unit)) ≤ 2 * (whole * product) + whole * unit := by
      rw [Nat.mul_left_comm 2 whole, Nat.mul_left_comm 2 whole, ← Nat.mul_add]
      exact Nat.mul_le_mul_left whole (roundDiv_near product some).1
    refine Nat.lt_of_mul_lt_mul_left (a := whole) ?_
    calc whole * (roundDiv product unit * unit)
        < (whole * floor + whole) * 2 ^ 53 := by omega
      _ = whole * ((floor + 1) * 2 ^ 53) := by ring

/-- **The floor of a product with a fraction.** For fractions of at most 100 parts that are not near to zero, and
whole numbers below 2⁴⁷, it does not matter that the double of the fraction lies below it. -/
theorem floorIndex_mul (h : x.LiesBelow part whole digits) (most : 17 ≤ part) (few : whole ≤ 100) (pos : n ≠ 0)
    (fits : n < 2 ^ 47) : ((ofNat n).mul x).floorIndex = part * n / whole := by
  have step : excess (n * digits) < 971 := Nat.lt_of_le_of_lt (h.excess_le pos fits) (by decide)
  obtain ⟨finite, value⟩ := units_ofRatio_two_pow (h.le_product pos) step (show 53 ≤ 1074 by decide)
  have floor : (ofRatio false (n * digits) (2 ^ 53)).units / unitsPerOne = part * n / whole := by
    rw [← h.roundDiv_div most few pos fits, ← Nat.mul_div_mul_right _ _ (Nat.two_pow_pos 53), value,
      Nat.mul_comm unitsPerOne, Nat.mul_div_mul_right _ _ unitsPerOne_pos]
  rw [h.mul_eq pos (Nat.lt_trans fits (by decide)), (isSize_ofRatio _ _).floorIndex_eq finite, floor]
  have below : part * n / whole ≤ n := Nat.div_le_of_le_mul (Nat.mul_le_mul_right n h.part_lt.le)
  rw [floor]
  exact Nat.le_trans below (Nat.le_trans fits.le (by decide))

end LiesBelow

/-! ### The fractions of percentiles -/

theorem liesBelow_95 : (ofRatio false 95 100).LiesBelow 19 20 8556839292003942 where
  size := isSize_ofRatio 95 100
  isInfinite := by decide +kernel
  units_eq := by decide +kernel
  normal := by decide
  gap := by decide
  part_lt := by decide

theorem liesBelow_99 : (ofRatio false 99 100).LiesBelow 99 100 8917127262193582 where
  size := isSize_ofRatio 99 100
  isInfinite := by decide +kernel
  units_eq := by decide +kernel
  normal := by decide
  gap := by decide
  part_lt := by decide

/-! ### Multiples in order -/

section Multiples

variable {x y z : Double}

/-- What is no number or is negative has the floor zero. -/
theorem floorIndex_eq_zero (h : x.isNaN = true ∨ x.isNegative = true) : x.floorIndex = 0 :=
  if_pos (Bool.or_eq_true_iff.2 h)

theorem floorIndex_le (x : Double) : x.floorIndex ≤ maxIndex := by
  rw [floorIndex]
  split
  · exact Nat.zero_le _
  · split
    · exact Nat.le_refl _
    · exact Nat.min_le_right _ _

/-- Zero is finite, and has no units. -/
theorem units_of_isZero (h : x.isZero = true) : x.isInfinite = false ∧ x.units = 0 := by
  have magnitude : x.magnitude = 0 := of_decide_eq_true h
  refine ⟨decide_eq_false (by rw [magnitude]; decide), ?_⟩
  rw [units, magnitude]
  rfl

theorem floorIndex_of_isZero (h : x.isZero = true) : x.floorIndex = 0 := by
  obtain ⟨finite, none⟩ := units_of_isZero h
  rw [floorIndex, finite, none, Nat.zero_div]
  exact ite_self 0

theorem nearest_zero (den : Nat) : nearest 0 den = 0 := by
  have none (den : Nat) : roundDiv 0 den = 0 := by
    simp [roundDiv]
  rw [nearest, Nat.zero_mul, Nat.zero_div, none]
  rfl

/-- What is ordered by value is ordered, or both are zeros. -/
theorem of_le (h : x.le y = true) :
    (x.isNaN = false ∧ y.isNaN = false) ∧ (x.isZero = true ∧ y.isZero = true ∨ x.totalLe y = true) := by
  rw [le] at h
  split at h
  · cases h
  · next numbers =>
    exact ⟨Bool.or_eq_false_iff.1 (Bool.eq_false_iff.2 numbers),
      (Bool.or_eq_true_iff.1 h).imp_left Bool.and_eq_true_iff.1⟩

/-- A number that is at most zero. -/
theorem low_of_le_zero (h : x.le zero = true) : x.isNegative = true ∨ x.isZero = true := by
  obtain ⟨-, ⟨isZero, -⟩ | below⟩ := of_le h
  · exact .inr isZero
  · refine (Bool.eq_false_or_eq_true x.isNegative).imp_right fun positive => decide_eq_true ?_
    have keys : x.orderKey ≤ signBit + 0 := of_decide_eq_true below
    rw [orderKey, positive, if_neg Bool.false_ne_true] at keys
    omega

/-- Above a number that is not below zero there is no negative one. -/
theorem isNegative_of_totalLe (positive : x.isNegative = false) (h : x.totalLe y = true) : y.isNegative = false := by
  have keys : x.orderKey ≤ y.orderKey := of_decide_eq_true h
  by_contra negative
  rw [orderKey, orderKey, positive, if_neg Bool.false_ne_true, if_pos (Bool.eq_true_of_not_eq_false negative)] at keys
  unfold signBit at keys
  omega

namespace IsSize

/-- Larger numbers do not have smaller floors. -/
theorem floorIndex_le_floorIndex (hx : x.IsSize) (hy : y.IsSize) (h : x.totalLe y = true) :
    x.floorIndex ≤ y.floorIndex := by
  cases infinite : y.isInfinite with
  | true =>
    have largest : y.floorIndex = maxIndex := by
      rw [floorIndex, hy.isNaN, hy.isNegative, infinite]
      rfl
    rw [largest]
    exact floorIndex_le x
  | false =>
    rw [floorIndex, floorIndex, hx.isNaN, hx.isNegative, hy.isNaN, hy.isNegative, infinite,
      hx.isInfinite_of_totalLe hy h infinite]
    exact min_le_min_right maxIndex (Nat.div_le_div_right (unitsOf_le_unitsOf ((hx.totalLe_iff hy).1 h)))

variable (hx : x.IsSize) (finite : x.isInfinite = false) (pos : x.isZero = false)

include hx finite

/-- A product with a negative number is negative, or no number. -/
theorem isNegative_mul (number : y.isNaN = false) (negative : y.isNegative = true) :
    (x.mul y).isNaN = true ∨ (x.mul y).isNegative = true := by
  have sign : (false != true) = true := rfl
  rw [mul, hx.isNaN, number, hx.isNegative, negative, finite, Bool.or_self, Bool.false_or, sign,
    if_neg Bool.false_ne_true]
  split
  · split
    · exact .inl (by decide)
    · exact .inr (isNegative_ofMagnitude true infinityBits_lt)
  · exact .inr (isNegative_ofRatio true _ _)

/-- A multiple of what is not above zero has the floor zero. -/
theorem floorIndex_mul_eq_zero (h : y.isNaN = true ∨ y.isNegative = true ∨ y.isZero = true) :
    (x.mul y).floorIndex = 0 := by
  -- the product is no number, is negative, or is zero
  cases number : y.isNaN with
  | true =>
    have none : x.mul y = nan := by
      rw [mul, number, Bool.or_true]
      rfl
    rw [none]
    exact floorIndex_eq_zero (.inl (by decide))
  | false =>
    cases negative : y.isNegative with
    | true => exact floorIndex_eq_zero (hx.isNegative_mul finite number negative)
    | false =>
      have isZero : y.isZero = true := by simpa [number, negative] using h
      obtain ⟨finite', none⟩ := units_of_isZero isZero
      refine floorIndex_of_isZero (decide_eq_true ?_)
      rw [hx.mul_eq ⟨negative, number⟩ finite finite', magnitude_ofRatio, none, Nat.mul_zero, nearest_zero]

include pos

/-- A multiple of a number that is not below zero is the nearest one, and infinite if the number is. -/
theorem mul_eq_ofMagnitude (hy : y.IsSize) :
    x.mul y = ofMagnitude false
      (if y.isInfinite then infinityBits else nearest (x.units * y.units) (unitsPerOne * unitsPerOne)) := by
  cases infinite : y.isInfinite with
  | true =>
    have magnitude : y.magnitude = infinityBits := of_decide_eq_true infinite
    have notZero : y.isZero = false := decide_eq_false (by rw [magnitude]; decide)
    rw [mul, hx.isNaN, hy.isNaN, finite, infinite, pos, notZero, hx.isNegative, hy.isNegative, Bool.or_self,
      Bool.or_true, if_neg Bool.false_ne_true, if_pos rfl, if_neg Bool.false_ne_true, if_pos rfl, bne_self_eq_false]
  | false =>
    rw [hx.mul_eq hy finite infinite, if_neg Bool.false_ne_true, ofRatio]

/-- So multiples are in the order of the numbers. -/
theorem mul_totalLe_mul (hy : y.IsSize) (hz : z.IsSize) (h : y.totalLe z = true) :
    (x.mul y).totalLe (x.mul z) = true := by
  rw [hx.mul_eq_ofMagnitude finite pos hy, hx.mul_eq_ofMagnitude finite pos hz]
  exact totalLe_of_rounds (fun units => nearest (x.units * units) (unitsPerOne * unitsPerOne))
    (fun more => nearest_le_nearest (Nat.mul_le_mul_left _ more) _) (fun _ => nearest_le _ _) hy hz h

theorem isSize_mul (hy : y.IsSize) : (x.mul y).IsSize := by
  rw [hx.mul_eq_ofMagnitude finite pos hy]
  refine isSize_ofMagnitude ?_
  split
  · exact Nat.le_refl _
  · exact nearest_le _ _

/-- Multiples do not have smaller floors than multiples of less. -/
theorem floorIndex_mul_le (h : y.le z = true) : (x.mul y).floorIndex ≤ (x.mul z).floorIndex := by
  obtain ⟨⟨number, number'⟩, order⟩ := of_le h
  -- the order of keys is that of values only above zero; there is nothing to show of a multiple with anything else
  by_cases low : y.isNegative = true ∨ y.isZero = true
  · rw [hx.floorIndex_mul_eq_zero finite (.inr low)]
    exact Nat.zero_le _
  · obtain ⟨positive, notZero⟩ := not_or.1 low
    have positive : y.isNegative = false := Bool.eq_false_iff.2 positive
    have below : y.totalLe z = true := order.resolve_left fun zeros => notZero zeros.1
    have isSize : y.IsSize := ⟨positive, number⟩
    have isSize' : z.IsSize := ⟨isNegative_of_totalLe positive below, number'⟩
    exact (hx.isSize_mul finite pos isSize).floorIndex_le_floorIndex (hx.isSize_mul finite pos isSize')
      (hx.mul_totalLe_mul finite pos isSize isSize' below)

end IsSize

/-- A whole number times one is itself. -/
theorem ofNat_mul_one {n : Nat} (pos : n ≠ 0) (exact : n < 2 ^ 53) : (ofNat n).mul (ofNat 1) = ofNat n := by
  obtain ⟨finite, value⟩ := units_ofNat pos exact
  obtain ⟨finite', one⟩ := units_ofNat Nat.one_ne_zero (show 1 < 2 ^ 53 by decide)
  have scaled : 0 < unitsPerOne * unitsPerOne := Nat.mul_pos unitsPerOne_pos unitsPerOne_pos
  have isSize : ∀ n, (ofNat n).IsSize := fun n => isSize_ofRatio n 1
  have product : n * unitsPerOne * (1 * unitsPerOne) = n * (unitsPerOne * unitsPerOne) := by ring
  rw [(isSize n).mul_eq (isSize 1) finite finite', value, one, product, ofNat, ofRatio, ofRatio,
    ← nearest_mul_right n 1 scaled, Nat.one_mul]

/-- The floor of a whole number. -/
theorem floorIndex_ofNat {n : Nat} (pos : n ≠ 0) (exact : n < 2 ^ 53) : (ofNat n).floorIndex = n := by
  obtain ⟨finite, value⟩ := units_ofNat pos exact
  have floor : (ofNat n).units / unitsPerOne = n := by rw [value, Nat.mul_div_cancel _ unitsPerOne_pos]
  have isSize : (ofNat n).IsSize := isSize_ofRatio n 1
  rw [isSize.floorIndex_eq finite, floor]
  rw [floor]
  exact Nat.le_trans exact.le (by decide)

end Multiples

end Double

end ServiceProbe.Number
