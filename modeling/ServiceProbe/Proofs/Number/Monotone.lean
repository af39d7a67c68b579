import Mathlib.Data.Nat.Log
import ServiceProbe.Proofs.Number.Wholes

/-!
# Rounding keeps the order

A larger ratio is never rounded to a smaller double. The nearest double is found in two stages, its step and then
its fraction, so this holds of a step that grows because fractions end where those of the next step begin.

* `roundDiv_le_roundDiv` — the nearest integers of quotients by one divisor are in the order of the dividends;
* `Double.nearest_le_nearest` — and so are the doubles nearest to them;
* `Double.unitsOf_le_unitsOf` — the magnitudes of doubles are in the order of their values;
* `Double.IsSize.totalLe_of_rounds` — and what is made of the values in their order, with infinity left as it is;
* `Double.IsSize.div_totalLe_div` — so that quotients of doubles by one divisor are in the order of the dividends;
* `Double.IsSize.isSize_add` — sums of numbers that are not below zero are such numbers, and so never no numbers.
-/

namespace ServiceProbe.Number

theorem roundDiv_le_roundDiv {num num' : Nat} (h : num ≤ num') (den : Nat) :
    roundDiv num den ≤ roundDiv num' den := by
  have quotients : num / den ≤ num' / den := Nat.div_le_div_right h
  rcases Nat.lt_or_eq_of_le quotients with less | same
  · -- the lower one is rounded up by one at most, and the upper one not below its quotient
    have below := (roundDiv_bounds num den).2
    have above := (roundDiv_bounds num' den).1
    omega
  · have rests : num % den ≤ num' % den := by
      have split := Nat.div_add_mod num den
      have split' := Nat.div_add_mod num' den
      rw [← same] at split'
      omega
    unfold roundDiv
    dsimp only
    rw [← same]
    split <;> split <;> (try split) <;> (try split) <;> omega

namespace Double

/-! ### Magnitudes of ratios -/

/-- By how many doublings of the unit a ratio is rounded. -/
def stepOf (num den : Nat) : Nat :=
  (num * unitsPerOne / den).log2 - 52

/-- The fraction of the double nearest to a ratio, in its step. -/
def fractionOf (num den : Nat) : Nat :=
  roundDiv (num * unitsPerOne) (den <<< stepOf num den)

theorem nearest_eq (num den : Nat) :
    nearest num den = min (stepOf num den * fractions + fractionOf num den) infinityBits :=
  rfl

/-- The step leaves 53 binary digits of the quotient, or all of them. -/
theorem quotient_lt (num den : Nat) :
    num * unitsPerOne / den < 2 * fractions * 2 ^ stepOf num den := by
  have digits : ∀ n : Nat, n + 1 ≤ 53 + (n - 52) := by omega
  refine Nat.lt_of_lt_of_le Nat.lt_log2_self ?_
  rw [show 2 * fractions = 2 ^ 53 from rfl, ← Nat.pow_add]
  exact Nat.pow_le_pow_right Nat.two_pos (digits _)

theorem le_quotient {num den : Nat} (digits : fractions ≤ num * unitsPerOne / den) :
    fractions * 2 ^ stepOf num den ≤ num * unitsPerOne / den := by
  have notZero : num * unitsPerOne / den ≠ 0 := (Nat.lt_of_lt_of_le (by decide) digits).ne'
  have least : 52 ≤ (num * unitsPerOne / den).log2 := (Nat.le_log2 notZero).2 digits
  refine Nat.le_trans (Nat.le_of_eq ?_) (Nat.log2_self_le notZero)
  rw [show fractions = 2 ^ 52 from rfl, ← Nat.pow_add, stepOf, Nat.add_sub_cancel' least]

theorem fractionOf_le (num den : Nat) : fractionOf num den ≤ 2 * fractions := by
  have below : num * unitsPerOne / (den <<< stepOf num den) < 2 * fractions := by
    rw [Nat.shiftLeft_eq, ← Nat.div_div_eq_div_mul]
    exact (Nat.div_lt_iff_lt_mul (Nat.two_pow_pos _)).2 (quotient_lt num den)
  exact Nat.le_trans (roundDiv_bounds _ _).2 below

/-- A quotient of at least 53 binary digits is rounded to a fraction with all of them. -/
theorem le_fractionOf {num den : Nat} (digits : fractions ≤ num * unitsPerOne / den) :
    fractions ≤ fractionOf num den := by
  have above : fractions ≤ num * unitsPerOne / (den <<< stepOf num den) := by
    rw [Nat.shiftLeft_eq, ← Nat.div_div_eq_div_mul]
    exact (Nat.le_div_iff_mul_le (Nat.two_pow_pos _)).2 (le_quotient digits)
  exact Nat.le_trans above (roundDiv_bounds _ _).1

theorem digits_of_stepOf_pos {num den : Nat} (pos : 0 < stepOf num den) :
    fractions ≤ num * unitsPerOne / den := by
  have more : 52 < (num * unitsPerOne / den).log2 := Nat.lt_of_sub_pos pos
  have notZero : num * unitsPerOne / den ≠ 0 := fun none => by
    rw [none] at more
    exact absurd more (by decide)
  exact (Nat.le_log2 notZero).1 more.le

theorem stepOf_le_stepOf {num num' : Nat} (h : num ≤ num') (den : Nat) :
    stepOf num den ≤ stepOf num' den := by
  have quotients : num * unitsPerOne / den ≤ num' * unitsPerOne / den :=
    Nat.div_le_div_right (Nat.mul_le_mul_right _ h)
  rw [stepOf, stepOf, Nat.log2_eq_log_two, Nat.log2_eq_log_two]
  exact Nat.sub_le_sub_right (Nat.log_mono_right quotients) 52

/-- A larger dividend is not rounded to a smaller magnitude. -/
theorem nearest_le_nearest {num num' : Nat} (h : num ≤ num') (den : Nat) :
    nearest num den ≤ nearest num' den := by
  rw [nearest_eq, nearest_eq]
  refine min_le_min_right _ ?_
  rcases Nat.lt_or_eq_of_le (stepOf_le_stepOf h den) with less | same
  · -- the fractions of the lower step end where those of the next one begin
    have most := fractionOf_le num den
    have least := le_fractionOf (digits_of_stepOf_pos (Nat.zero_lt_of_lt less))
    calc stepOf num den * fractions + fractionOf num den
        ≤ stepOf num den * fractions + 2 * fractions := Nat.add_le_add_left most _
      _ = (stepOf num den + 1) * fractions + fractions := by ring
      _ ≤ stepOf num' den * fractions + fractionOf num' den :=
          Nat.add_le_add (Nat.mul_le_mul_right _ less) least
  · rw [fractionOf, fractionOf, same]
    exact Nat.add_le_add_left (roundDiv_le_roundDiv (Nat.mul_le_mul_right _ h) _) _

/-- A common factor does not matter. -/
theorem nearest_mul_right (num den : Nat) {factor : Nat} (pos : 0 < factor) :
    nearest (num * factor) (den * factor) = nearest num den := by
  unfold nearest
  dsimp only
  rw [Nat.mul_right_comm num, Nat.mul_div_mul_right _ _ pos, Nat.shiftLeft_eq, Nat.shiftLeft_eq,
    Nat.mul_right_comm den, roundDiv_mul_right _ _ pos]

/-! ### Values of magnitudes -/

theorem unitsOf_of_lt {magnitude : Nat} (small : magnitude < fractions) : unitsOf magnitude = magnitude := by
  rw [unitsOf, Nat.div_eq_of_lt small, Nat.mod_eq_of_lt small]
  rfl

/-- A magnitude with all binary digits has a step and a fraction. -/
theorem exists_step_of_le {magnitude : Nat} (large : fractions ≤ magnitude) :
    ∃ step fraction, magnitude = step * fractions + fraction ∧ fractions ≤ fraction ∧
      fraction < 2 * fractions ∧ unitsOf magnitude = fraction * 2 ^ step := by
  have pos : 0 < fractions := by decide
  obtain ⟨step, isStep⟩ := Nat.exists_eq_succ_of_ne_zero (Nat.div_pos large pos).ne'
  have rest := Nat.mod_lt magnitude pos
  have split : magnitude = step * fractions + (fractions + magnitude % fractions) := by
    have whole := Nat.div_add_mod magnitude fractions
    rw [isStep, Nat.mul_comm, Nat.succ_mul] at whole
    omega
  refine ⟨step, fractions + magnitude % fractions, split, by omega, by omega, ?_⟩
  rw [← Nat.shiftLeft_eq, ← unitsOf_step step (by omega) (by omega), ← split]

theorem unitsOf_le_unitsOf {magnitude magnitude' : Nat} (h : magnitude ≤ magnitude') :
    unitsOf magnitude ≤ unitsOf magnitude' := by
  rcases Nat.lt_or_ge magnitude' fractions with small | large'
  · rwa [unitsOf_of_lt small, unitsOf_of_lt (Nat.lt_of_le_of_lt h small)]
  obtain ⟨step', fraction', split', low', high', value'⟩ := exists_step_of_le large'
  rw [value']
  rcases Nat.lt_or_ge magnitude fractions with small | large
  · rw [unitsOf_of_lt small]
    exact Nat.le_trans small.le (Nat.le_trans low' (Nat.le_mul_of_pos_right _ (Nat.two_pow_pos _)))
  obtain ⟨step, fraction, split, low, high, value⟩ := exists_step_of_le large
  rw [value]
  rcases Nat.lt_trichotomy step step' with less | rfl | more
  · calc fraction * 2 ^ step
        ≤ 2 * fractions * 2 ^ step := Nat.mul_le_mul_right _ high.le
      _ = fractions * 2 ^ (step + 1) := by ring
      _ ≤ fraction' * 2 ^ step' := Nat.mul_le_mul low' (Nat.pow_le_pow_right Nat.two_pos less)
  · exact Nat.mul_le_mul_right _ (by omega)
  · -- a larger step makes a larger magnitude
    have room : (step' + 1) * fractions ≤ step * fractions := Nat.mul_le_mul_right _ more
    rw [Nat.add_mul] at room
    omega

/-! ### Doubles that are not below zero -/

/-- A number that is not below zero, infinity included. -/
structure IsSize (x : Double) : Prop where
  isNegative : x.isNegative = false
  isNaN : x.isNaN = false

theorem isSize_ofMagnitude {magnitude : Nat} (most : magnitude ≤ infinityBits) :
    (ofMagnitude false magnitude).IsSize := by
  have small : magnitude < signBit := Nat.lt_of_le_of_lt most infinityBits_lt
  refine ⟨isNegative_ofMagnitude false small, ?_⟩
  rw [isNaN, magnitude_ofMagnitude _ small]
  exact decide_eq_false (Nat.not_lt.2 most)

theorem isSize_ofRatio (num den : Nat) : (ofRatio false num den).IsSize :=
  isSize_ofMagnitude (nearest_le num den)

theorem isSize_zero : zero.IsSize :=
  ⟨by decide, by decide⟩

theorem magnitude_ofRatio (num den : Nat) : (ofRatio false num den).magnitude = nearest num den :=
  magnitude_ofMagnitude false (Nat.lt_of_le_of_lt (nearest_le num den) infinityBits_lt)

/-- The double of a positive number that fits a word is a positive number. -/
theorem finite_pos_ofNat {n : Nat} (pos : n ≠ 0) (fits : n < UInt64.size) :
    (ofNat n).isInfinite = false ∧ (ofNat n).isZero = false := by
  have most : nearest n 1 ≤ nearest UInt64.size 1 := nearest_le_nearest fits.le 1
  have least : nearest 1 1 ≤ nearest n 1 := nearest_le_nearest (Nat.pos_of_ne_zero pos) 1
  have finite : nearest UInt64.size 1 < infinityBits := by decide +kernel
  have one : 0 < nearest 1 1 := by decide +kernel
  rw [isInfinite, isZero, ofNat, magnitude_ofRatio]
  exact ⟨decide_eq_false (Nat.lt_of_le_of_lt most finite).ne, decide_eq_false (Nat.lt_of_lt_of_le one least).ne'⟩

namespace IsSize

variable {x y z : Double}

/-- Among them the total order is that of the magnitudes. -/
theorem totalLe_iff (hx : x.IsSize) (hy : y.IsSize) : x.totalLe y = true ↔ x.magnitude ≤ y.magnitude := by
  rw [totalLe, decide_eq_true_iff, orderKey, orderKey, hx.isNegative, hy.isNegative]
  exact Nat.add_le_add_iff_left

/-- The total order is that by value. -/
theorem le_of_totalLe (hx : x.IsSize) (hy : y.IsSize) (h : x.totalLe y = true) : x.le y = true := by
  rw [le, hx.isNaN, hy.isNaN, h, Bool.or_true]
  rfl

theorem magnitude_le (hx : x.IsSize) : x.magnitude ≤ infinityBits :=
  Nat.not_lt.1 (of_decide_eq_false hx.isNaN)

/-- A quotient by a positive number is the nearest one, and infinite if the dividend is. -/
theorem div_eq (hx : x.IsSize) (hy : y.IsSize) (finite : y.isInfinite = false) (pos : y.isZero = false) :
    x.div y = ofMagnitude false (if x.isInfinite then infinityBits else nearest x.units y.units) := by
  rw [div, hx.isNaN, hy.isNaN, hx.isNegative, hy.isNegative, finite, pos, Bool.or_self,
    if_neg Bool.false_ne_true, if_neg Bool.false_ne_true, if_neg Bool.false_ne_true,
    if_neg Bool.false_ne_true, bne_self_eq_false]
  cases x.isInfinite with
  | true => rw [if_pos rfl, if_pos rfl]
  | false => rw [if_neg Bool.false_ne_true, if_neg Bool.false_ne_true, ofRatio]

/-- A product is the nearest one. -/
theorem mul_eq (hx : x.IsSize) (hy : y.IsSize) (finite : x.isInfinite = false) (finite' : y.isInfinite = false) :
    x.mul y = ofRatio false (x.units * y.units) (unitsPerOne * unitsPerOne) := by
  rw [mul, hx.isNaN, hy.isNaN, hx.isNegative, hy.isNegative, finite, finite', Bool.or_self,
    if_neg Bool.false_ne_true, if_neg Bool.false_ne_true, bne_self_eq_false]

/-- The floor of a finite number, if that is an index. -/
theorem floorIndex_eq (hx : x.IsSize) (finite : x.isInfinite = false) (fits : x.units / unitsPerOne ≤ maxIndex) :
    x.floorIndex = x.units / unitsPerOne := by
  rw [floorIndex, hx.isNaN, hx.isNegative, finite]
  exact Nat.min_eq_left fits

theorem isSize_div (hx : x.IsSize) (hy : y.IsSize) (finite : y.isInfinite = false) (pos : y.isZero = false) :
    (x.div y).IsSize := by
  rw [hx.div_eq hy finite pos]
  refine isSize_ofMagnitude ?_
  split
  · exact Nat.le_refl _
  · exact nearest_le _ _

/-- A sum of sizes is a size. Minus zero is none, and may be the first term all the same. -/
theorem isSize_add (hx : x.IsSize ∨ x = negativeZero) (hy : y.IsSize) : (x.add y).IsSize := by
  have number : x.isNaN = false := hx.elim (·.isNaN) fun h => h ▸ by decide
  have notBelow : 0 ≤ x.signedUnits := by
    rcases hx with isSize | rfl
    · rw [signedUnits, isSize.isNegative, if_neg Bool.false_ne_true]
      exact Int.natCast_nonneg _
    · decide
  rw [add, number, hy.isNaN, hy.isNegative, Bool.or_self, if_neg Bool.false_ne_true]
  -- an infinite size stays as it is; everything else is a sum of units
  cases infinite : x.isInfinite with
  | true =>
    have isSize : x.IsSize := hx.resolve_right fun h => by
      rw [h] at infinite
      exact absurd infinite (by decide)
    rw [if_pos rfl, isSize.isNegative, bne_self_eq_false, Bool.and_false, if_neg Bool.false_ne_true]
    exact isSize
  | false =>
    rw [if_neg Bool.false_ne_true]
    split
    · exact hy
    · -- neither a sum of nothing nor any other is negative
      have sum : 0 ≤ x.signedUnits + y.signedUnits := by
        rw [signedUnits.eq_def y, hy.isNegative, if_neg Bool.false_ne_true]
        exact Int.add_nonneg notBelow (Int.natCast_nonneg _)
      dsimp only
      split
      · rw [Bool.and_false]
        exact isSize_ofMagnitude (Nat.zero_le _)
      · rw [decide_eq_false (Int.not_lt.2 sum)]
        exact isSize_ofRatio _ _

theorem isSize_foldl_add {sizes : List Double} (areSizes : ∀ size ∈ sizes, size.IsSize) (hx : x.IsSize) :
    (sizes.foldl add x).IsSize := by
  induction sizes generalizing x with
  | nil => exact hx
  | cons size rest ih =>
    exact ih (fun other member => areSizes other (List.mem_cons_of_mem _ member))
      (isSize_add (.inl hx) (areSizes size List.mem_cons_self))

/-- What is below a finite number is finite. -/
theorem isInfinite_of_totalLe (hx : x.IsSize) (hz : z.IsSize) (h : x.totalLe z = true)
    (finite : z.isInfinite = false) : x.isInfinite = false := by
  have magnitudes := (hx.totalLe_iff hz).1 h
  have below : z.magnitude ≠ infinityBits := of_decide_eq_false finite
  have most := hz.magnitude_le
  exact decide_eq_false (by omega)

/-- What is made of values in their order, with infinity of infinity, is in the order of the numbers. -/
theorem totalLe_of_rounds (round : Nat → Nat)
    (rounds : ∀ {units units'}, units ≤ units' → round units ≤ round units')
    (most : ∀ units, round units ≤ infinityBits) (hx : x.IsSize) (hz : z.IsSize) (h : x.totalLe z = true) :
    (ofMagnitude false (if x.isInfinite then infinityBits else round x.units)).totalLe
      (ofMagnitude false (if z.isInfinite then infinityBits else round z.units)) = true := by
  have least : ∀ w : Double, (if w.isInfinite then infinityBits else round w.units) ≤ infinityBits := by
    intro w
    split
    · exact Nat.le_refl _
    · exact most _
  -- a magnitude up to the infinite one leaves the bit for the sign alone
  have small : ∀ w : Double, (if w.isInfinite then infinityBits else round w.units) < signBit := fun w =>
    Nat.lt_of_le_of_lt (least w) infinityBits_lt
  refine ((isSize_ofMagnitude (least x)).totalLe_iff (isSize_ofMagnitude (least z))).2 ?_
  rw [magnitude_ofMagnitude _ (small x), magnitude_ofMagnitude _ (small z)]
  cases finite : z.isInfinite with
  | true =>
    rw [if_pos rfl]
    exact least x
  | false =>
    rw [hx.isInfinite_of_totalLe hz h finite, if_neg Bool.false_ne_true, if_neg Bool.false_ne_true]
    exact rounds (unitsOf_le_unitsOf ((hx.totalLe_iff hz).1 h))

theorem div_totalLe_div (hx : x.IsSize) (hz : z.IsSize) (hy : y.IsSize) (finite : y.isInfinite = false)
    (pos : y.isZero = false) (h : x.totalLe z = true) : (x.div y).totalLe (z.div y) = true := by
  rw [hx.div_eq hy finite pos, hz.div_eq hy finite pos]
  exact totalLe_of_rounds (nearest · y.units) (fun more => nearest_le_nearest more _) (fun _ => nearest_le _ _) hx hz h

end IsSize

end Double

end ServiceProbe.Number
