import ServiceProbe.Summary

/-!
# The counts of a summary

A summary counts its outcomes in two ways, by their kinds and by what they count as, and has the failures as a
difference. One more outcome raises one of the numbers by kind (`Breakdown.number_record`), so that these are the
numbers of the outcomes of each kind, and the others follow from them.

* `Breakdown.number_foldl`, `Breakdown.total_foldl` — what is counted along a list, from any counts on;
* `Summary.succeeded_of` — what counts as a success, from the numbers by kind;
* `Summary.counted_once` — all counts of a summary, and those of a list in two parts.
-/

namespace ServiceProbe

namespace Breakdown

/-! ### One more outcome -/

/-- The number of outcomes of a kind. -/
def number (held : Breakdown) : OutcomeKind → Nat
  | .success => held.success
  | .failure => held.failure
  | .cancelled => held.cancelled
  | .timedOut => held.timedOut
  | .transportError => held.transportError

/-- The number of outcomes of all kinds. -/
def total (held : Breakdown) : Nat :=
  held.success + held.failure + held.cancelled + held.timedOut + held.transportError

/-- An outcome is counted among those of its kind, and not among others. -/
theorem number_record (held : Breakdown) (kind kind' : OutcomeKind) :
    (held.record kind).number kind' = held.number kind' + if kind = kind' then 1 else 0 := by
  cases kind <;> cases kind' <;> rfl

theorem total_record (held : Breakdown) (kind : OutcomeKind) : (held.record kind).total = held.total + 1 := by
  unfold total
  cases kind <;> simp only [record] <;> omega

/-! ### A list of outcomes -/

theorem number_foldl (outcomes : List Outcome) (held : Breakdown) (kind : OutcomeKind) :
    (outcomes.foldl (fun held outcome => held.record outcome.kind) held).number kind =
      held.number kind + outcomes.countP fun outcome => outcome.kind = kind := by
  induction outcomes generalizing held with
  | nil => rfl
  | cons outcome rest ih =>
    rw [List.foldl_cons, ih, number_record, List.countP_cons, Nat.add_assoc, Nat.add_comm (ite _ _ _)]
    simp only [decide_eq_true_eq]

theorem total_foldl (outcomes : List Outcome) (held : Breakdown) :
    (outcomes.foldl (fun held outcome => held.record outcome.kind) held).total = held.total + outcomes.length := by
  induction outcomes generalizing held with
  | nil => rfl
  | cons outcome rest ih => rw [List.foldl_cons, ih, total_record, List.length_cons, Nat.add_assoc, Nat.add_comm 1]

end Breakdown

/-! ### Successes by their kinds -/

/-- What counts as a success is one or, if the policy says so, was cancelled. -/
theorem SummaryOptions.countsAsSuccess_iff {options : SummaryOptions} {outcome : Outcome} :
    options.countsAsSuccess outcome = true ↔
      outcome.kind = .success ∨ outcome.kind = .cancelled ∧ options.cancelled = .asSuccess := by
  unfold countsAsSuccess
  cases outcome.kind <;> simp

namespace Summary

variable (outcomes : List Outcome) (options : SummaryOptions)

theorem number_breakdown_of (kind : OutcomeKind) :
    (Summary.of outcomes options).breakdown.number kind = outcomes.countP fun outcome => outcome.kind = kind := by
  have counted := Breakdown.number_foldl outcomes {} kind
  have none : ({} : Breakdown).number kind = 0 := by cases kind <;> rfl
  rwa [none, Nat.zero_add] at counted

theorem total_breakdown_of : (Summary.of outcomes options).breakdown.total = outcomes.length :=
  (Breakdown.total_foldl outcomes {}).trans (Nat.zero_add _)

/-- The successes of a summary are those by kind, with the cancelled ones if these count as well. -/
theorem succeeded_of :
    (Summary.of outcomes options).succeeded = (Summary.of outcomes options).breakdown.success +
      if options.cancelled = .asSuccess then (Summary.of outcomes options).breakdown.cancelled else 0 := by
  have success := number_breakdown_of outcomes options .success
  have cancelled := number_breakdown_of outcomes options .cancelled
  show (outcomes.filter options.countsAsSuccess).length =
    (Summary.of outcomes options).breakdown.number .success +
      if options.cancelled = .asSuccess then (Summary.of outcomes options).breakdown.number .cancelled else 0
  rw [success, cancelled, ← List.countP_eq_length_filter]
  clear success cancelled
  -- no outcome is of both kinds, so each adds as much on the left as on the right
  induction outcomes with
  | nil => split <;> rfl
  | cons outcome rest ih =>
    simp only [List.countP_cons, ih, SummaryOptions.countsAsSuccess_iff, decide_eq_true_eq]
    by_cases lenient : options.cancelled = .asSuccess
    · simp only [lenient, if_true, and_true]
      cases outcome.kind <;> simp <;> omega
    · simp only [lenient, if_false, and_false, or_false, Nat.add_zero]

theorem succeeded_le : (Summary.of outcomes options).succeeded ≤ (Summary.of outcomes options).total :=
  List.length_filter_le _ _

theorem failed_add_succeeded :
    (Summary.of outcomes options).failed + (Summary.of outcomes options).succeeded =
      (Summary.of outcomes options).total :=
  Nat.sub_add_cancel (succeeded_le outcomes options)

/-- Nothing has failed if every outcome counts as a success. -/
theorem failed_eq_zero_iff {outcomes : List Outcome} {options : SummaryOptions} :
    (Summary.of outcomes options).failed = 0 ↔ (Summary.of outcomes options).allSucceeded = true := by
  have sum := failed_add_succeeded outcomes options
  rw [allSucceeded, decide_eq_true_iff]
  omega

/-! ### All counts -/

/-- The counts of a summary are those of the outcomes. -/
structure Counts (summary : Summary) (outcomes : List Outcome) (policy : CancelledPolicy) : Prop where
  total : summary.total = outcomes.length
  /-- Each kind has the number of its outcomes. -/
  kinds : ∀ kind, summary.breakdown.number kind = outcomes.countP fun outcome => outcome.kind = kind
  sum : summary.breakdown.success + summary.breakdown.failure + summary.breakdown.cancelled +
    summary.breakdown.timedOut + summary.breakdown.transportError = summary.total
  succeeded : summary.succeeded =
    match policy with
    | .asSuccess => summary.breakdown.success + summary.breakdown.cancelled
    | .asFailure => summary.breakdown.success
  /-- The difference is one of natural numbers as of integers. -/
  succeeded_le : summary.succeeded ≤ summary.total
  failed : summary.failed = summary.total - summary.succeeded
  allSucceeded : summary.allSucceeded = true ↔ summary.failed = 0

/-- Each count is the sum of two. -/
structure Joins (whole first second : Summary) : Prop where
  total : whole.total = first.total + second.total
  kinds : ∀ kind, whole.breakdown.number kind = first.breakdown.number kind + second.breakdown.number kind
  succeeded : whole.succeeded = first.succeeded + second.succeeded
  failed : whole.failed = first.failed + second.failed

theorem counts_of : (Summary.of outcomes options).Counts outcomes options.cancelled where
  total := rfl
  kinds := number_breakdown_of outcomes options
  sum := total_breakdown_of outcomes options
  succeeded := by
    rw [succeeded_of]
    cases options.cancelled <;> rfl
  succeeded_le := succeeded_le outcomes options
  failed := rfl
  allSucceeded := failed_eq_zero_iff.symm

theorem joins_of (first second : List Outcome) :
    (Summary.of (first ++ second) options).Joins (Summary.of first options) (Summary.of second options) := by
  have total : (Summary.of (first ++ second) options).total =
      (Summary.of first options).total + (Summary.of second options).total := List.length_append
  have succeeded : (Summary.of (first ++ second) options).succeeded =
      (Summary.of first options).succeeded + (Summary.of second options).succeeded := by
    show ((first ++ second).filter options.countsAsSuccess).length =
      (first.filter options.countsAsSuccess).length + (second.filter options.countsAsSuccess).length
    rw [List.filter_append, List.length_append]
  refine ⟨total, fun kind => ?_, succeeded, ?_⟩
  · rw [number_breakdown_of, number_breakdown_of, number_breakdown_of, List.countP_append]
  · -- differences are not added, so the sums of failures and successes are compared
    have whole := failed_add_succeeded (first ++ second) options
    have left := failed_add_succeeded first options
    have right := failed_add_succeeded second options
    omega

/-- **Each outcome is counted once.** Whatever the options, the counts by kind are the numbers of the outcomes of each
kind, and these are all outcomes; as many count as successes as the policy lets, and the others as failures. And the
counts of a list are the sums of those of its two parts, wherever it is split. -/
theorem counted_once (options : SummaryOptions) :
    (∀ outcomes, (Summary.of outcomes options).Counts outcomes options.cancelled) ∧
      ∀ first second,
        (Summary.of (first ++ second) options).Joins (Summary.of first options) (Summary.of second options) :=
  ⟨fun outcomes => counts_of outcomes options, joins_of options⟩

end Summary

end ServiceProbe
