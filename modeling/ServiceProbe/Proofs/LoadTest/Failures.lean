import ServiceProbe.LoadTest
import ServiceProbe.Session.Script
import ServiceProbe.Proofs.CommandLine.Commands
import ServiceProbe.Proofs.Pool.Attribution
import ServiceProbe.Proofs.Summary.Counts
import ServiceProbe.Proofs.Summary.Order

/-!
# The failures of a load test

A report of a load test tells of its failures twice. Its summary counts the outcomes that do not count as successes,
and the policy for cancelled tasks has a say in that; its list holds the outcomes that are no successes, whatever
the policy. So the two agree on all outcomes but those of cancelled tasks that count as successes
(`SummaryOptions.pardons`).

* `LoadReport.length_failures` — the length of the list, from the summary;
* `LoadReport.failuresAgree_iff` — the two agree if no outcome is pardoned, and only then;
* `LoadPlan.failures_agree_iff` — so it is for any load test, whatever its services answer.
-/

namespace ServiceProbe

/-! ### What the policy changes -/

/-- The outcome is no success and counts as one. -/
def SummaryOptions.pardons (options : SummaryOptions) (outcome : Outcome) : Bool :=
  decide (outcome.kind = .cancelled) && decide (options.cancelled = .asSuccess)

namespace SummaryOptions

variable {options : SummaryOptions} {outcome : Outcome}

theorem pardons_iff : options.pardons outcome = true ↔ outcome.kind = .cancelled ∧ options.cancelled = .asSuccess := by
  rw [pardons, Bool.and_eq_true, decide_eq_true_iff, decide_eq_true_iff]

/-- An outcome counts as a success if it is one or is pardoned. -/
theorem countsAsSuccess_eq (options : SummaryOptions) (outcome : Outcome) :
    options.countsAsSuccess outcome = (outcome.isSuccess || options.pardons outcome) := by
  unfold countsAsSuccess Outcome.isSuccess pardons
  cases outcome.kind <;> simp

/-- A success is in no need of a pardon. -/
theorem isSuccess_eq_false_of_pardons (h : options.pardons outcome = true) : outcome.isSuccess = false := by
  rw [Outcome.isSuccess, (pardons_iff.1 h).1]
  rfl

end SummaryOptions

/-! ### The list and the summary -/

namespace LoadReport

/-- The list of failures says what the summary says. -/
structure FailuresAgree (report : LoadReport) (options : SummaryOptions) : Prop where
  ascending : (report.failures.map (·.index)).Pairwise (· < ·)
  exact : ∀ entry, entry ∈ report.failures ↔
    entry ∈ report.reports ∧ options.countsAsSuccess entry.outcome = false
  length : report.failures.length = report.summary.failed
  isEmpty : report.failures = [] ↔ report.passed = true

/-- What the list of failures says, whatever the policy for cancelled tasks. -/
structure FailuresListed (report : LoadReport) (options : SummaryOptions) : Prop where
  ascending : (report.failures.map (·.index)).Pairwise (· < ·)
  exact : ∀ entry, entry ∈ report.failures ↔ entry ∈ report.reports ∧ entry.outcome.kind ≠ .success
  /-- The list is longer than the number of failures in the summary by that of the pardons. -/
  length : report.failures.length = report.summary.failed +
    report.reports.countP fun entry => options.pardons entry.outcome
  /-- It agrees with the summary where no cancelled task counts as a success, and nowhere else. -/
  agrees : report.FailuresAgree options ↔
    options.cancelled = .asFailure ∨ ∀ entry ∈ report.reports, entry.outcome.kind ≠ .cancelled

variable (plan : LoadPlan) (reports : List Report) (wallTime : Nanos)

/-- The list holds the outcomes that are no successes. -/
theorem mem_failures_iff {report : LoadReport} {entry : Report} :
    entry ∈ report.failures ↔ entry ∈ report.reports ∧ entry.outcome.isSuccess = false := by
  rw [failures, Report.byIndex, List.mem_mergeSort, List.mem_filter, Bool.not_eq_true']

/-- Each outcome is a success, is pardoned or is a failure, and no more than one of them. -/
theorem countP_add_countP (options : SummaryOptions) (reports : List Report) :
    (reports.countP fun entry => !entry.outcome.isSuccess) +
        (reports.countP fun entry => options.countsAsSuccess entry.outcome) =
      reports.length + reports.countP fun entry => options.pardons entry.outcome := by
  induction reports with
  | nil => rfl
  | cons entry rest ih =>
    simp only [List.countP_cons, List.length_cons, options.countsAsSuccess_eq entry.outcome]
    -- a report is counted once on the left, unless it is pardoned: then it counts as both
    cases success : entry.outcome.isSuccess with
    | true =>
      have none : options.pardons entry.outcome = false := by
        by_contra some
        rw [Bool.not_eq_false] at some
        rw [SummaryOptions.isSuccess_eq_false_of_pardons some] at success
        exact Bool.false_ne_true success
      simp [none]
      omega
    | false =>
      cases options.pardons entry.outcome <;> simp <;> omega

/-- **The length of the list.** It is longer than the number of failures by the number of pardons. -/
theorem length_failures :
    (LoadReport.of plan reports wallTime).failures.length =
      (LoadReport.of plan reports wallTime).summary.failed +
        reports.countP fun entry => plan.summary.pardons entry.outcome := by
  have listed : (LoadReport.of plan reports wallTime).failures.length =
      reports.countP fun entry => !entry.outcome.isSuccess := by
    rw [failures, Report.byIndex, List.length_mergeSort, List.countP_eq_length_filter]
    rfl
  have failed : (LoadReport.of plan reports wallTime).summary.failed =
      reports.length - reports.countP fun entry => plan.summary.countsAsSuccess entry.outcome := by
    show (reports.map _).length - ((reports.map _).filter _).length = _
    rw [List.length_map, ← List.countP_eq_length_filter, List.countP_map]
    rfl
  -- the summary takes what counts as a success away from all, so that sums are compared here
  have total := countP_add_countP plan.summary reports
  have most : (reports.countP fun entry => plan.summary.countsAsSuccess entry.outcome) ≤ reports.length :=
    List.countP_le_length
  omega

/-- **Where the two agree.** They do if no outcome is pardoned, and only then. -/
theorem failuresAgree_iff
    (ascending : ((LoadReport.of plan reports wallTime).failures.map (·.index)).Pairwise (· < ·)) :
    (LoadReport.of plan reports wallTime).FailuresAgree plan.summary ↔
      ∀ entry ∈ reports, plan.summary.pardons entry.outcome = false := by
  have length := length_failures plan reports wallTime
  constructor
  · intro agree
    have none : (reports.countP fun entry => plan.summary.pardons entry.outcome) = 0 := by
      -- the list is as much longer than the count as there are reports that are pardoned
      have same := agree.length
      omega
    intro entry member
    exact Bool.not_eq_true _ ▸ List.countP_eq_zero.1 none entry member
  · intro unpardoned
    have none : (reports.countP fun entry => plan.summary.pardons entry.outcome) = 0 :=
      List.countP_eq_zero.2 fun entry member => by rw [unpardoned entry member]; exact Bool.false_ne_true
    have same : (LoadReport.of plan reports wallTime).failures.length =
        (LoadReport.of plan reports wallTime).summary.failed := by
      rw [length, none, Nat.add_zero]
    -- where nobody is pardoned, the policy and the outcome say the same
    refine ⟨ascending, fun entry => ?_, same, ?_⟩
    · rw [mem_failures_iff]
      refine and_congr_right fun member => ?_
      rw [SummaryOptions.countsAsSuccess_eq, unpardoned entry member, Bool.or_false]
    · rw [← List.length_eq_zero_iff, same]
      exact Summary.failed_eq_zero_iff

/-- The report of any pool lists its failures. -/
theorem failuresListed_run {σ : Type} (requested : Nat) (begun : Nanos) (state : σ)
    (invocations : List (Invocation σ)) :
    (LoadReport.of plan (Pool.run requested begun state invocations).reports wallTime).FailuresListed plan.summary := by
  have ascending : ((LoadReport.of plan (Pool.run requested begun state invocations).reports wallTime).failures.map
      (·.index)).Pairwise (· < ·) := by
    -- the reports come as they were received; by index they are those of the spells
    have increasing := Pool.increasing_report_run_spells requested begun state invocations
    rw [failures, LoadReport.of, Pool.byIndex_filter_run_reports, List.pairwise_map]
    exact (List.pairwise_map.1 increasing).filter _
  refine ⟨ascending, fun entry => ?_, length_failures plan _ wallTime, ?_⟩
  · rw [mem_failures_iff, Outcome.isSuccess, decide_eq_false_iff_not]
  · rw [failuresAgree_iff plan _ wallTime ascending]
    constructor
    · intro unpardoned
      -- only a policy that takes cancellations for successes pardons, and only cancellations
      cases policy : plan.summary.cancelled with
      | asFailure => exact .inl rfl
      | asSuccess =>
        refine .inr fun entry member cancelled => ?_
        have pardoned := SummaryOptions.pardons_iff.2 ⟨cancelled, policy⟩
        rw [unpardoned entry member] at pardoned
        exact Bool.false_ne_true pardoned
    · intro settled entry member
      rw [← Bool.not_eq_true, SummaryOptions.pardons_iff]
      rintro ⟨cancelled, policy⟩
      rcases settled with strict | none
      · cases strict.symm.trans policy
      · exact none entry member cancelled

end LoadReport

/-! ### Load tests -/

namespace LoadPlan

variable (plan : LoadPlan) (payloads : PayloadSource)

/-- The report of a load test, if its pool returns, lists its failures. -/
theorem failuresListed_playOf {σ : Type} {begun : Nanos} {state : σ} {invocation : Nat → Invocation σ}
    {report : LoadReport}
    (reports : (plan.playOf begun state (Pool.launch plan.workers begun state plan.count invocation)).result =
      .returned report) : report.FailuresListed plan.summary := by
  by_cases channel : Pool.HasChannel plan.workers plan.count
  · rw [Pool.launch_of_hasChannel channel] at reports
    rw [← Ending.returned.inj reports]
    exact LoadReport.failuresListed_run plan _ plan.workers begun state _
  · rw [Pool.launch_of_not_hasChannel channel] at reports
    cases reports

/-- **The failures of a load test.** Whether its invocations share a service or each has its own, the list of
failures in what it reports holds the outcomes that are no successes, by index. It agrees with the summary if cancelled
tasks count as failures or there are none, and otherwise lists some that the summary does not count. There is a report
unless both the number of invocations and that of workers are out of all proportion. -/
theorem failures_agree_iff {σ τ : Type} (service : Service σ) (state : σ) (services : Nat → Service τ)
    (initial : Nat → τ) (begun : Nanos) :
    (plan.count < 2 ^ 61 ∨ plan.workers < 2 ^ 60 →
      (∃ report, ((plan.session payloads).run service begun state).result = .returned report) ∧
        ∃ report, (plan.playApart payloads services initial begun).result = .returned report) ∧
      (∀ report, ((plan.session payloads).run service begun state).result = .returned report →
        report.FailuresListed plan.summary) ∧
      ∀ report, (plan.playApart payloads services initial begun).result = .returned report →
        report.FailuresListed plan.summary := by
  rw [run_session]
  refine ⟨fun proportionate => ?_, fun report => plan.failuresListed_playOf, fun report => plan.failuresListed_playOf⟩
  have channel := Pool.hasChannel_iff.2 proportionate
  rw [playApart, poolApart, Pool.launch_of_hasChannel channel, Pool.launch_of_hasChannel channel]
  exact ⟨⟨_, rfl⟩, _, rfl⟩

/-- The outcome of a task that is cancelled before its first status request. -/
private def cancelledAtOnce : Outcome :=
  .cancelled (Snapshot.ofStatus .cancelled) (Nanos.ofMillis 10)

/-- The end of the load test of three cancelled tasks, which count as successes. -/
def pardonedEnd : Ending LoadReport :=
  let plan : LoadPlan :=
    { endpoint := .crawl
      count := 3
      workers := 3
      polling := { interval := Nanos.ofMillis 10, maxAttempts := 5 }
      summary := { cancelled := .asSuccess } }
  let script : Script := { status := fun _ => ⟨.returns (.ok (Snapshot.ofStatus .cancelled)), 0⟩ }
  (plan.playApart (fun _ => .ok (.raw .null)) (fun _ => script.service) (fun index => { submissions := index })
    0).result

/-- What it reports passes and has no failures, and it lists three. -/
theorem failures_pardoned :
    ∃ report, pardonedEnd = .returned report ∧ report.passed = true ∧ report.summary.failed = 0 ∧
      report.failures.map (·.index) = [0, 1, 2] ∧ ¬ report.FailuresAgree { cancelled := .asSuccess } := by
  let listed : List Report := [⟨0, cancelledAtOnce⟩, ⟨1, cancelledAtOnce⟩, ⟨2, cancelledAtOnce⟩]
  have channel : Pool.HasChannel 3 3 := by decide
  refine ⟨_, (by rw [pardonedEnd, playApart, poolApart, Pool.launch_of_hasChannel channel]; rfl), ?_⟩
  generalize isReport : LoadReport.of _ (PoolRun.reports _) _ = report
  have reports : report.reports.Perm listed := isReport ▸ Pool.run_reports_perm _ _ _ _
  have summary : report.summary = Summary.of (listed.map (·.outcome)) { cancelled := .asSuccess } := by
    have ofReports : report.summary = Summary.of (report.reports.map (·.outcome)) { cancelled := .asSuccess } := by
      rw [← isReport]
      rfl
    exact ofReports.trans (Summary.of_eq_of_perm (reports.map _) _)
  have failures : report.failures = listed := by
    have increasing : (listed.map (·.index)).Pairwise (· < ·) := by decide
    exact Report.byIndex_eq_of_perm (reports.filter fun entry => !entry.outcome.isSuccess) increasing
  have passed : report.passed = true := by
    rw [LoadReport.passed, summary]
    decide
  refine ⟨passed, by rw [summary]; decide, by rw [failures]; rfl, fun agree => ?_⟩
  -- the report passes, but its list is not empty
  have isEmpty := agree.isEmpty.2 passed
  rw [failures] at isEmpty
  exact List.cons_ne_nil _ _ isEmpty

end LoadPlan

end ServiceProbe
