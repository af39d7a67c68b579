/-!
# Rounding a quotient to the nearest integer

`roundDiv` divides with the rule of the nearest integer, a tie going to the even neighbour. Main
statement: the result is never further than half a unit from the quotient (`roundDiv_near`).
-/

namespace ServiceProbe.Number

/-- The integer nearest to `num / den`; a tie goes to the even one. -/
def roundDiv (num den : Nat) : Nat :=
  let whole := num / den
  let rest := num % den
  if 2 * rest < den then whole
  else if den < 2 * rest then whole + 1
  else whole + whole % 2

/-- The integer nearest to `num / den`; a tie goes up. -/
def roundDivUp (num den : Nat) : Nat :=
  (2 * num + den) / (2 * den)

/-- Twice the distance to the exact quotient is at most one unit. -/
theorem roundDiv_near (num : Nat) {den : Nat} (h : 0 < den) :
    2 * (roundDiv num den * den) ≤ 2 * num + den ∧ 2 * num ≤ 2 * (roundDiv num den * den) + den := by
  have split := Nat.div_add_mod num den
  have small := Nat.mod_lt num h
  have flip : num / den * den = den * (num / den) := Nat.mul_comm _ _
  unfold roundDiv
  simp only
  split
  · omega
  · split
    · have : (num / den + 1) * den = num / den * den + den := by
        rw [Nat.add_mul, Nat.one_mul]
      omega
    · -- in the middle the even one of the two is taken, and both are half a unit away
      rcases Nat.mod_two_eq_zero_or_one (num / den) with e | e
      · rw [e]; simp only [Nat.add_zero]; omega
      · rw [e]
        have : (num / den + 1) * den = num / den * den + den := by
          rw [Nat.add_mul, Nat.one_mul]
        omega

end ServiceProbe.Number
