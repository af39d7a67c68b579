import Mathlib.Algebra.Group.Int.Defs
import ServiceProbe.Config.Loading

/-!
# Values of variables

The value of a variable is read before anything is known about the setting that it names: as a truth value, else
as a whole number of 64 bits, else as a real number, and only else as a text.

* `isReadAs_scalarOf` — the kinds of values, each with what was tried before it (`IsReadAs`).
-/

namespace ServiceProbe.Config

open Number (Double of_int64? int64?_eq_some)

variable {value : String}

/-- The word for a truth value. -/
def truthWord (b : Bool) : String :=
  if b then "true" else "false"

/-- The value is the word for a truth value, in letters of any size. -/
def IsTruth (value : String) (b : Bool) : Prop :=
  Text.lower value.toList = (truthWord b).toList

/-- The value is a whole number, and a signed word of 64 bits holds it. -/
def IsWhole (value : String) (n : Int) : Prop :=
  Number.whole? value.toList = some n ∧ -2 ^ 63 ≤ n ∧ n < 2 ^ 63

theorem IsTruth.unique {b b' : Bool} (h : IsTruth value b) (h' : IsTruth value b') : b = b' := by
  have same : (truthWord b).toList = (truthWord b').toList := h.symm.trans h'
  revert same
  cases b <;> cases b' <;> decide

theorem ofList_lower_eq_iff (b : Bool) :
    String.ofList (Text.lower value.toList) = truthWord b ↔ IsTruth value b := by
  rw [IsTruth, ← String.toList_inj, String.toList_ofList]

/-- What a value is read as: the first of these kinds that it is of. -/
inductive IsReadAs (value : String) : Scalar → Prop where
  | truth {b : Bool} (isTruth : IsTruth value b) : IsReadAs value (.truth b)
  | whole {word : Int64} (noTruth : ∀ b, ¬ IsTruth value b) (isWhole : IsWhole value word.toInt) :
    IsReadAs value (.whole word)
  | real {x : Double} (noTruth : ∀ b, ¬ IsTruth value b) (noWhole : ∀ n, ¬ IsWhole value n)
    (isReal : Double.read? value.toList = some x) : IsReadAs value (.real x)
  | text (noTruth : ∀ b, ¬ IsTruth value b) (noWhole : ∀ n, ¬ IsWhole value n)
    (noReal : Double.read? value.toList = none) : IsReadAs value (.text value)

/-- **Values of variables.** -/
theorem isReadAs_scalarOf (value : String) : IsReadAs value (scalarOf value) := by
  have readTrue : String.ofList (Text.lower value.toList) = "true" ↔ _ := ofList_lower_eq_iff true
  have readFalse : String.ofList (Text.lower value.toList) = "false" ↔ _ := ofList_lower_eq_iff false
  rw [scalarOf]
  -- the kinds are tried in this order, and each case keeps that the kinds before it did not fit
  by_cases isTrue : IsTruth value true
  · rw [if_pos (readTrue.2 isTrue)]
    exact .truth isTrue
  rw [if_neg (mt readTrue.1 isTrue)]
  by_cases isFalse : IsTruth value false
  · rw [if_pos (readFalse.2 isFalse)]
    exact .truth isFalse
  rw [if_neg (mt readFalse.1 isFalse)]
  have noTruth : ∀ b, ¬ IsTruth value b := Bool.forall_bool.2 ⟨isFalse, isTrue⟩
  cases word : Number.whole? value.toList >>= Number.int64? with
  | some word' =>
    obtain ⟨size, isSize, isWord⟩ := Option.bind_eq_some_iff.1 word
    obtain ⟨low, high, rfl⟩ := of_int64? isWord
    exact .whole noTruth ⟨isSize, low, Int.lt_of_le_sub_one high⟩
  | none =>
    have noWhole : ∀ n, ¬ IsWhole value n := by
      rintro n ⟨isSize, low, high⟩
      rw [isSize] at word
      exact nomatch (int64?_eq_some low (Int.le_sub_one_of_lt high)).symm.trans word
    cases real : Double.read? value.toList with
    | some x => exact .real noTruth noWhole real
    | none => exact .text noTruth noWhole real

end ServiceProbe.Config
