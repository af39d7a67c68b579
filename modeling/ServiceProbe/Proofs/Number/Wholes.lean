import Mathlib.Algebra.Order.Ring.Nat
import Mathlib.Data.List.TakeWhile
import Mathlib.Tactic.Ring
import ServiceProbe.Number.Reading

/-!
# Whole numbers as doubles

A whole number of more than 53 binary digits is rounded when it becomes a double: to a multiple of the power of
two that leaves 53 digits.

* `Double.units_ofRatio` — the double of a whole number, as a multiple of that power;
* `Double.roundWithin_ofRatio` — from 2⁶³ on, the word of 64 bits that it becomes again: the nearest multiple of
  2048, and at most the largest word;
* `wordOf_eq_iff` — which whole numbers survive that (`Survives`).
-/

namespace ServiceProbe.Number

/-! ### Rounding -/

/-- A common factor does not matter. -/
theorem roundDiv_mul_right (num den : Nat) {factor : Nat} (pos : 0 < factor) :
    roundDiv (num * factor) (den * factor) = roundDiv num den := by
  unfold roundDiv
  simp only [Nat.mul_div_mul_right num den pos, Nat.mul_mod_mul_right, ← Nat.mul_assoc,
    Nat.mul_lt_mul_right pos]

theorem roundDivUp_mul_self (num : Nat) {den : Nat} (pos : 0 < den) : roundDivUp (num * den) den = num := by
  have small : den / (2 * den) = 0 := Nat.div_eq_of_lt (by omega)
  rw [roundDivUp, Nat.mul_left_comm, Nat.mul_comm num, Nat.mul_add_div (Nat.mul_pos Nat.two_pos pos), small,
    Nat.add_zero]

theorem roundDiv_bounds (num den : Nat) : num / den ≤ roundDiv num den ∧ roundDiv num den ≤ num / den + 1 := by
  unfold roundDiv
  dsimp only
  split
  · omega
  · split
    · omega
    · omega

namespace Double

/-! ### Magnitudes -/

theorem magnitude_ofMagnitude (negative : Bool) {magnitude : Nat} (small : magnitude < signBit) :
    (ofMagnitude negative magnitude).magnitude = magnitude := by
  have fits : (if negative then signBit else 0) + magnitude < UInt64.size := by
    unfold signBit UInt64.size at *
    split <;> omega
  rw [Double.magnitude, ofMagnitude, UInt64.toNat_ofNat_of_lt' fits]
  cases negative with
  | false => rw [if_neg Bool.false_ne_true, Nat.zero_add, Nat.mod_eq_of_lt small]
  | true => rw [if_pos rfl, Nat.add_mod_left, Nat.mod_eq_of_lt small]

theorem isNegative_ofMagnitude (negative : Bool) {magnitude : Nat} (small : magnitude < signBit) :
    (ofMagnitude negative magnitude).isNegative = negative := by
  have fits : (if negative then signBit else 0) + magnitude < UInt64.size := by
    unfold signBit UInt64.size at *
    split <;> omega
  rw [isNegative, ofMagnitude, UInt64.toNat_ofNat_of_lt' fits]
  cases negative with
  | false => exact decide_eq_false (by rw [if_neg Bool.false_ne_true]; omega)
  | true => exact decide_eq_true (by rw [if_pos rfl]; omega)

theorem infinityBits_lt : infinityBits < signBit := by decide

/-- Fractions of 53 binary digits are counted in the step of their exponent, also the one that carries over. -/
theorem unitsOf_step (step : Nat) {fraction : Nat} (low : fractions ≤ fraction)
    (high : fraction ≤ 2 * fractions) : unitsOf (step * fractions + fraction) = fraction <<< step := by
  have pos : 0 < fractions := by decide
  obtain ⟨rest, rfl⟩ := Nat.exists_eq_add_of_le low
  have split : step * fractions + (fractions + rest) = rest + (step + 1) * fractions := by ring
  rw [unitsOf, split, Nat.add_mul_div_right _ _ pos, Nat.add_mul_mod_self_right]
  rcases Nat.lt_or_ge rest fractions with small | large
  · rw [Nat.div_eq_of_lt small, Nat.mod_eq_of_lt small, Nat.zero_add]
    rfl
  · -- all digits are ones before the carry, so none is left behind it
    obtain rfl : rest = fractions := by omega
    rw [Nat.div_self pos, Nat.mod_self, Nat.shiftLeft_eq, Nat.shiftLeft_eq]
    rw [if_neg (by omega), show 1 + (step + 1) - 1 = step + 1 by omega, Nat.pow_succ]
    ring

/-- The step of a whole number: how many binary digits are more than 53. -/
def excess (n : Nat) : Nat :=
  n.log2 - 52

theorem unitsPerOne_pos : 0 < unitsPerOne :=
  Nat.lt_of_lt_of_eq (Nat.two_pow_pos _) (Nat.one_shiftLeft _).symm

theorem log2_shiftLeft {n : Nat} (pos : n ≠ 0) (k : Nat) : (n * 1 <<< k).log2 = n.log2 + k := by
  have some : 0 < 2 ^ k := Nat.two_pow_pos k
  rw [Nat.one_shiftLeft, Nat.log2_eq_iff (Nat.mul_ne_zero pos some.ne'), Nat.pow_add, Nat.add_right_comm,
    Nat.pow_add _ (n.log2 + 1)]
  exact ⟨Nat.mul_le_mul_right _ (Nat.log2_self_le pos), Nat.mul_lt_mul_of_pos_right Nat.lt_log2_self some⟩

theorem log2_eq_of_le {n : Nat} (large : fractions ≤ n) : n.log2 = excess n + 52 := by
  have pos : n ≠ 0 := by
    rintro rfl
    exact absurd large (by decide)
  have digits : 52 ≤ n.log2 := (Nat.le_log2 pos).2 large
  rw [excess, Nat.sub_add_cancel digits]

/-- The nearest fraction of a whole number has 53 binary digits, or is the first one with more. -/
theorem fraction_bounds {n : Nat} (large : fractions ≤ n) :
    fractions ≤ roundDiv n (2 ^ excess n) ∧ roundDiv n (2 ^ excess n) ≤ 2 * fractions := by
  have pos : n ≠ 0 := by
    rintro rfl
    exact absurd large (by decide)
  have some : 0 < 2 ^ excess n := Nat.two_pow_pos _
  have low : fractions * 2 ^ excess n ≤ n := by
    have h := Nat.log2_self_le pos
    rwa [log2_eq_of_le large, Nat.pow_add, Nat.mul_comm] at h
  have high : n < 2 * fractions * 2 ^ excess n := by
    have h := Nat.lt_log2_self (n := n)
    rwa [log2_eq_of_le large, Nat.add_assoc, Nat.pow_add, Nat.mul_comm] at h
  -- what stands before the rounding lies between the bounds, and rounding goes up by one at most
  have below := (Nat.le_div_iff_mul_le some).2 low
  have above := (Nat.div_lt_iff_lt_mul some).2 high
  obtain ⟨down, up⟩ := roundDiv_bounds n (2 ^ excess n)
  omega

/-- A whole number of at least 53 binary digits is rounded to a multiple of the power of two that is left. -/
theorem nearest_of_le {n : Nat} (large : fractions ≤ n) :
    nearest n 1 = min ((excess n + 1074) * fractions + roundDiv n (2 ^ excess n)) infinityBits := by
  have pos : n ≠ 0 := by
    rintro rfl
    exact absurd large (by decide)
  -- in units of 2⁻¹⁰⁷⁴ the number has 1074 binary digits more
  have step : (n * unitsPerOne / 1).log2 - 52 = excess n + 1074 := by
    rw [Nat.div_one, unitsPerOne, log2_shiftLeft pos, log2_eq_of_le large]
    omega
  have scaled : 1 <<< (excess n + 1074) = 2 ^ excess n * unitsPerOne := by
    rw [unitsPerOne, Nat.one_shiftLeft, Nat.one_shiftLeft, Nat.pow_add]
  rw [nearest, step, scaled, roundDiv_mul_right _ _ unitsPerOne_pos]

/-- The double of a whole number is the nearest multiple of its step. -/
theorem units_ofRatio (negative : Bool) {n : Nat} (large : fractions ≤ n) (finite : nearest n 1 < infinityBits) :
    (ofRatio negative n 1).units = roundDiv n (2 ^ excess n) * 2 ^ excess n * unitsPerOne := by
  have small : nearest n 1 < signBit := Nat.lt_trans finite infinityBits_lt
  obtain ⟨low, high⟩ := fraction_bounds large
  rw [units, ofRatio, magnitude_ofMagnitude _ small, nearest_of_le large, Nat.min_eq_left,
    unitsOf_step _ low high, unitsPerOne, Nat.shiftLeft_eq, Nat.one_shiftLeft, Nat.pow_add, Nat.mul_assoc]
  rw [nearest_of_le large] at finite
  omega

theorem roundWithin_of_finite {x : Double} (number : x.isNaN = false) (finite : x.isInfinite = false)
    (low high : Int) :
    x.roundWithin low high =
      max low (min high
        (if x.isNegative then -(roundDivUp x.units unitsPerOne : Int) else roundDivUp x.units unitsPerOne)) := by
  rw [roundWithin, number, finite]
  rfl

theorem isNaN_ofRatio (negative : Bool) (num den : Nat) : (ofRatio negative num den).isNaN = false := by
  have most := nearest_le num den
  rw [isNaN, ofRatio, magnitude_ofMagnitude _ (Nat.lt_of_le_of_lt most infinityBits_lt)]
  exact decide_eq_false (Nat.not_lt.2 most)

theorem isInfinite_ofRatio (negative : Bool) (num den : Nat) :
    (ofRatio negative num den).isInfinite = !decide (nearest num den < infinityBits) := by
  have most := nearest_le num den
  rw [isInfinite, ofRatio, magnitude_ofMagnitude _ (Nat.lt_of_le_of_lt most infinityBits_lt),
    ← decide_not, decide_eq_decide]
  omega

theorem isNegative_ofRatio (negative : Bool) (num den : Nat) :
    (ofRatio negative num den).isNegative = negative :=
  isNegative_ofMagnitude negative (Nat.lt_of_le_of_lt (nearest_le num den) infinityBits_lt)

/-- What is below zero becomes no word. -/
theorem roundWithin_ofRatio_true (n : Nat) (high : Int) : (ofRatio true n 1).roundWithin 0 high = 0 := by
  cases finite : (ofRatio true n 1).isInfinite with
  | true =>
    rw [roundWithin, isNaN_ofRatio, finite, isNegative_ofRatio]
    rfl
  | false =>
    rw [roundWithin_of_finite (isNaN_ofRatio _ _ _) finite, isNegative_ofRatio, if_pos rfl]
    omega

/-- The words of 64 bits that large whole numbers become: the nearest multiple of 2048, or the largest word. -/
theorem roundWithin_ofRatio_false {n : Nat} (large : 2 ^ 63 ≤ n) :
    (ofRatio false n 1).roundWithin 0 (2 ^ 64 - 1) = min (2048 * roundDiv n 2048 : Nat) (2 ^ 64 - 1) := by
  have normal : fractions ≤ n := Nat.le_trans (by decide) large
  obtain ⟨low, high⟩ := fraction_bounds normal
  have step : excess n = 11 ∨ 2 ^ 64 ≤ n ∧ 12 ≤ excess n := by
    have digits : n.log2 = excess n + 52 := log2_eq_of_le normal
    have pos : n ≠ 0 := by omega
    have least : 63 ≤ n.log2 := (Nat.le_log2 pos).2 large
    rcases Nat.lt_or_ge n (2 ^ 64) with fits | beyond
    · have most : n.log2 < 64 := (Nat.log2_lt pos).2 fits
      exact .inl (by omega)
    · have more : 64 ≤ n.log2 := (Nat.le_log2 pos).2 beyond
      exact .inr ⟨beyond, by omega⟩
  -- from 2⁶⁴ on both sides are the largest word
  have capped : 2 ^ 64 ≤ n → (2 ^ 64 - 1 : Int) = min (2048 * roundDiv n 2048 : Nat) (2 ^ 64 - 1) := by
    intro beyond
    have down := (roundDiv_bounds n 2048).1
    omega
  by_cases finite : nearest n 1 < infinityBits
  · have isFinite : (ofRatio false n 1).isInfinite = false := by
      rw [isInfinite_ofRatio, decide_eq_true finite]
      rfl
    rw [roundWithin_of_finite (isNaN_ofRatio _ _ _) isFinite, isNegative_ofRatio, if_neg Bool.false_ne_true,
      units_ofRatio false normal finite, roundDivUp_mul_self _ unitsPerOne_pos]
    rcases step with least | ⟨beyond, more⟩
    · -- 64 binary digits leave a step of 2¹¹
      have power : 2 ^ excess n = 2048 := congrArg (2 ^ ·) least
      rw [power]
      rw [power] at high
      have bound : 2 * fractions = 2 ^ 53 := by decide
      omega
    · rw [← capped beyond]
      have power : 2 ^ 12 ≤ 2 ^ excess n := Nat.pow_le_pow_right Nat.two_pos more
      have size : fractions * 2 ^ 12 ≤ roundDiv n (2 ^ excess n) * 2 ^ excess n := Nat.mul_le_mul low power
      have value : fractions * 2 ^ 12 = 2 ^ 64 := by decide
      omega
  · rw [roundWithin, isNaN_ofRatio, isInfinite_ofRatio, decide_eq_false finite, isNegative_ofRatio]
    refine capped ?_
    -- a number below 2⁶⁴ is far from being infinite
    rcases step with least | ⟨beyond, -⟩
    · rw [nearest_of_le normal, least] at finite
      rw [least] at high
      unfold infinityBits fractions at *
      omega
    · exact beyond

/-- A whole number is rounded as it is. -/
theorem read?_of_isDigits {text digits : List Char} {negative : Bool}
    (isSplit : splitSign text = (negative, digits)) (whole : isDigits digits) :
    read? text = some (ofRatio negative (digitsValue digits) 1) := by
  obtain ⟨some, all⟩ := Bool.and_eq_true_iff.1 whole
  have taken : digits.takeWhile Char.isDigit = digits :=
    List.takeWhile_eq_self_iff.2 (List.all_eq_true.1 all)
  have dropped : digits.dropWhile Char.isDigit = [] :=
    List.dropWhile_eq_nil_iff.2 (List.all_eq_true.1 all)
  have notEmpty : digits.isEmpty = false := by rwa [Bool.not_eq_true'] at some
  unfold read?
  simp only [isSplit, taken, dropped, List.append_nil, notEmpty]
  exact congrArg Option.some (ofScientific_zero negative _)

end Double

/-! ### Texts of whole numbers -/

/-- A whole number is a sign, if there is one, and digits. -/
theorem exists_of_whole? {text : List Char} {n : Int} (h : whole? text = some n) :
    ∃ negative digits, splitSign text = (negative, digits) ∧ isDigits digits ∧
      n = if negative then -(digitsValue digits : Int) else digitsValue digits := by
  rcases isSplit : splitSign text with ⟨negative, digits⟩
  rw [whole?, isSplit] at h
  dsimp only at h
  split at h
  · next some => exact ⟨negative, digits, rfl, some, (Option.some.inj h).symm⟩
  · cases h

/-- The word of 64 bits that a whole number becomes: itself if a signed word holds it, else what its double
becomes. What is below zero becomes no word. -/
def wordOf (n : Int) : Nat :=
  if n < 2 ^ 63 then n.toNat else min (2048 * roundDiv n.toNat 2048) (2 ^ 64 - 1)

/-- The numbers that a word of 64 bits holds and that become that word. -/
def Survives (n : Int) : Prop :=
  0 ≤ n ∧ (n < 2 ^ 63 ∨ n = 2 ^ 64 - 1 ∨ n < 2 ^ 64 ∧ 2048 ∣ n)

theorem roundDiv_of_dvd {num den : Nat} (pos : 0 < den) (dvd : den ∣ num) : den * roundDiv num den = num := by
  obtain ⟨size, rfl⟩ := dvd
  rw [roundDiv, Nat.mul_mod_right, Nat.mul_div_cancel_left size pos, Nat.mul_zero, if_pos pos]

theorem wordOf_eq_iff (n : Int) : (wordOf n : Int) = n ↔ Survives n := by
  unfold wordOf Survives
  split
  · omega
  · next large =>
    obtain ⟨size, rfl⟩ := Int.eq_ofNat_of_zero_le (show 0 ≤ n by omega)
    rw [Int.toNat_natCast]
    constructor
    · intro same
      refine ⟨by omega, ?_⟩
      -- either rounding is exact, or it goes beyond the largest word
      rcases Nat.le_total (2048 * roundDiv size 2048) (2 ^ 64 - 1) with small | large
      · rw [Nat.min_eq_left small] at same
        refine .inr (.inr ⟨by omega, roundDiv size 2048, ?_⟩)
        omega
      · rw [Nat.min_eq_right large] at same
        exact .inr (.inl (by omega))
    · rintro ⟨-, small | largest | ⟨small, dvd⟩⟩
      · omega
      · obtain rfl : size = 2 ^ 64 - 1 := by omega
        decide
      · have whole : 2048 * roundDiv size 2048 = size := roundDiv_of_dvd (by decide) (by omega)
        omega

end ServiceProbe.Number
