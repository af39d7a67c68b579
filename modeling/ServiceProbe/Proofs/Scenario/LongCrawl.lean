import ServiceProbe.Proofs.Scenario.Evidence
import ServiceProbe.Proofs.Task.LargerBudget
import ServiceProbe.Session.Script

/-!
# Crawls with twice the budgets

A long crawl is a scenario of one task whose poll has twice the budgets of the configuration. Twice a budget that can
be configured is one that can be kept to: the attempts stay within 32 bits, and the limit on the time is a span that
can be written down (`Nanos.longest`). So the scenario is the one it would be under the configuration itself, but for
a poll that times out there.

* `Config.within_doubled`, `Config.two_mul_le_longest` — the doubled budgets;
* `Scenario.taskProcedure_of_within` — a scenario of one task under a larger budget;
* `Scenario.larger_budget_only_adds_attempts` — any two polls of which the second has the larger budgets, and the
  long crawl.
-/

namespace ServiceProbe

/-- Two polls of a task against a service, the second with a larger budget. -/
theorem Polling.Within.run_poll {σ : Type} {polling polling' : Polling} (h : polling.Within polling')
    (service : Service σ) (handle : Handle) (begun : Nanos) (state : σ) :
    let run := (polling.poll handle).run service begun state
    let run' := (polling'.poll handle).run service begun state
    (¬ run.TimesOut → run' = run) ∧
      run.trace.filterMap Step.call? <+: run'.trace.filterMap Step.call? :=
  (polling.course service handle begun state).run_poll_of_within (polling.heard_course service handle begun state) h

/-! ### Twice the budgets -/

/-- The longest span that can be written down, with 64 bits for the whole seconds. -/
def Nanos.longest : Nanos :=
  UInt64.size * Nanos.perSecond - 1

/-- Attempts that fit in 32 bits are not cut short by being doubled. -/
theorem Polling.within_doubled {polling : Polling} (fits : polling.maxAttempts < UInt32.size) :
    polling.Within polling.doubled where
  interval_eq := rfl
  maxAttempts_le := by
    show polling.maxAttempts ≤ min (2 * polling.maxAttempts) (UInt32.size - 1)
    omega
  maxWait_le := by
    intro limit' limited'
    obtain ⟨limit, limited, rfl⟩ := Option.map_eq_some_iff.1 limited'
    exact ⟨limit, limited, Nat.le_mul_of_pos_left limit Nat.two_pos⟩

namespace Config

theorem within_doubled (config : Config) : config.pollingOf.Within config.pollingOf.doubled :=
  Polling.within_doubled config.polling.maxAttempts.toNat_lt

/-- A limit that is given in milliseconds is far from the longest span. -/
theorem two_mul_le_longest {config : Config} {limit : Nanos} (limited : config.pollingOf.maxWait = some limit) :
    2 * limit ≤ Nanos.longest := by
  obtain ⟨millis, -, rfl⟩ := Option.map_eq_some_iff.1 limited
  have fits : millis.toNat < UInt64.size := millis.toNat_lt
  show 2 * (millis.toNat * Nanos.perMilli) ≤ UInt64.size * Nanos.perSecond - 1
  simp only [Nanos.perMilli, Nanos.perSecond]
  omega

end Config

namespace Scenario

/-! ### Scenarios of one task under a larger budget -/

section OneTask

variable {σ : Type} (service : Service σ) {polling polling' : Polling} (endpoint : Endpoint) (payload : Payload)
  (now : Nanos) (state : σ)

/-- The run of the poll of a task that a scenario submits at an instant and that is accepted under an id. -/
def pollOf (polling : Polling) (id : String) : Run σ Outcome :=
  let submission := service.submit state .configured endpoint payload
  (polling.poll ⟨id, endpoint, now⟩).run service (now + submission.1.delay) submission.2

theorem pollOf_of_within (h : polling.Within polling') (id : String) :
    let run := pollOf service endpoint payload now state polling id
    let run' := pollOf service endpoint payload now state polling' id
    (¬ run.TimesOut → run' = run) ∧
      run.trace.filterMap Step.call? <+: run'.trace.filterMap Step.call? :=
  h.run_poll service _ _ _

/-- **A larger budget for the poll.** Where the poll does not time out, or where nothing is polled, the scenario does
the same under it, to the last step. In any case the requests it made come first. -/
theorem taskProcedure_of_within (h : polling.Within polling') (evidence : Snapshot → Verdict) :
    let run := (taskProcedure polling endpoint payload evidence).run service now state
    let run' := (taskProcedure polling' endpoint payload evidence).run service now state
    ((∀ id, (service.submit state .configured endpoint payload).1.answer = .returns (.ok id) →
        ¬ (pollOf service endpoint payload now state polling id).TimesOut) →
      run' = run) ∧
      run.trace.filterMap Step.call? <+: run'.trace.filterMap Step.call? := by
  intro run run'
  have runs : run = _ := run_taskProcedure evidence
  have runs' : run' = _ := run_taskProcedure evidence
  rw [runs, runs']
  dsimp only
  cases (service.submit state .configured endpoint payload).1.answer with
  | crashes text => exact ⟨fun _ => rfl, List.prefix_rfl⟩
  | returns result =>
    cases result with
    | error e => exact ⟨fun _ => rfl, List.prefix_rfl⟩
    | ok id =>
      obtain ⟨same, first⟩ := pollOf_of_within service endpoint payload now state h id
      constructor
      · -- the submission and the verdict are the same, so it is for the polls to agree
        intro inTime
        exact congrArg (fun polled => Run.after _ (Run.map _ polled)) (same (inTime id rfl))
      · exact (List.prefix_cons_inj _).2 first

end OneTask

/-! ### The long crawl -/

/-- What a long crawl submits. -/
def longCrawl : Payload :=
  .crawl { url := "https://httpbin.org/links/5/0", options := some { maxDepth := some 1, limit := some 10 } }

/-- A long crawl that is polled in a way of its own. -/
def crawlPolled (polling : Config → Polling) : Scenario :=
  ofTask "crawl full" polling .crawl (fun _ => longCrawl) statsEvidence

theorem run_crawlPolled {σ : Type} (service : Service σ) (polling : Config → Polling) (config : Config)
    (begun : Nanos) (state : σ) :
    ((crawlPolled polling).body config).run service begun state =
      (Session.attempt (taskProcedure (polling config) .crawl longCrawl statsEvidence)).run service begun state :=
  congrArg (Session.run service · begun state) (body_ofTask _ _ _ _ _ config)

/-- **A larger budget only adds attempts.** Where a poll does not time out, one with larger budgets is the same run: the
same requests, and the same outcome after the same time. Where it does, its requests are the first of those of the
other. Twice the budgets of a configuration are larger, and no limit on the time is too long to be doubled; so a long
crawl asks at least what it would ask under the budgets of the configuration, and comes to the same as it would
there, unless its poll would time out. -/
theorem larger_budget_only_adds_attempts {σ : Type} (service : Service σ) :
    (∀ (polling polling' : Polling) (handle : Handle) (begun : Nanos) (state : σ), polling.Within polling' →
      let run := (polling.poll handle).run service begun state
      let run' := (polling'.poll handle).run service begun state
      (¬ run.TimesOut → run' = run) ∧
        run.trace.filterMap Step.call? <+: run'.trace.filterMap Step.call?) ∧
    ∀ config : Config,
      (config.pollingOf.doubled.interval = config.pollingOf.interval ∧
        config.pollingOf.doubled.maxAttempts = min (2 * config.pollingOf.maxAttempts) (UInt32.size - 1) ∧
        config.pollingOf.doubled.maxWait = config.pollingOf.maxWait.map (2 * ·) ∧
        ∀ limit, config.pollingOf.maxWait = some limit → 2 * limit ≤ Nanos.longest) ∧
      crawlFull = crawlPolled (fun config => config.pollingOf.doubled) ∧
      ∀ (begun : Nanos) (state : σ),
        let played := ((crawlPolled Config.pollingOf).body config).run service begun state
        let played' := (crawlFull.body config).run service begun state
        ((∀ id, (service.submit state .configured .crawl longCrawl).1.answer = .returns (.ok id) →
            ¬ (pollOf service .crawl longCrawl begun state config.pollingOf id).TimesOut) →
          played' = played) ∧
          played.trace.filterMap Step.call? <+: played'.trace.filterMap Step.call? := by
  constructor
  · exact fun polling polling' handle begun state h => h.run_poll service handle begun state
  · intro config
    refine ⟨⟨rfl, rfl, rfl, fun limit limited => Config.two_mul_le_longest limited⟩, rfl, fun begun state => ?_⟩
    intro played played'
    have runs : played = _ := run_crawlPolled service Config.pollingOf config begun state
    have runs' : played' = _ := run_crawlPolled service (fun config => config.pollingOf.doubled) config begun state
    rw [Session.run_attempt] at runs runs'
    -- the scenario is its one poll, with a submission before and a verdict behind
    obtain ⟨same, first⟩ :=
      taskProcedure_of_within service .crawl longCrawl begun state config.within_doubled statsEvidence
    constructor
    · intro inTime
      rw [runs, runs', same inTime]
    · rw [runs, runs']
      exact first

/-- A task that is completed at its third status request. Two attempts are too few for it, and twice as many see it
completed; with three attempts it makes no difference that there could be six, in a poll or in the scenario. -/
theorem larger_budget_only_adds_attempts_at_third_reply :
    let pending : Reply Snapshot := ⟨.returns (.ok (Snapshot.ofStatus .pending)), 0⟩
    let completed : Reply Snapshot := ⟨.returns (.ok (Snapshot.ofStatus .completed)), 0⟩
    let service := Script.service { status := Script.inTurn completed [pending, pending] }
    let run (attempts : Nat) := (({ maxAttempts := attempts } : Polling).poll ⟨"task-0", .crawl, 0⟩).run service 0 {}
    let calls (attempts : Nat) := (run attempts).trace.filterMap Step.call?
    let config : Config := { polling := { maxAttempts := 3 } }
    (run 2).TimesOut ∧ ¬ (run 3).TimesOut ∧ run 6 = run 3 ∧
      (calls 2).length = 2 ∧ (calls 4).length = 3 ∧ calls 2 <+: calls 4 ∧
      (crawlFull.body config).run service 0 {} =
        ((crawlPolled Config.pollingOf).body config).run service 0 {} := by
  intro pending completed service run calls config
  obtain ⟨polls, crawls⟩ := larger_budget_only_adds_attempts service
  have within (attempts : Nat) (fits : attempts < UInt32.size) : ({ maxAttempts := attempts } : Polling).Within _ :=
    Polling.within_doubled fits
  have inTime : ¬ (run 3).TimesOut := by
    rintro ⟨attempts, latency, timedOut⟩
    cases timedOut
  have twice := (polls _ _ ⟨"task-0", .crawl, 0⟩ 0 {} (within 2 (by decide))).2
  have same := (polls _ _ ⟨"task-0", .crawl, 0⟩ 0 {} (within 3 (by decide))).1 inTime
  refine ⟨⟨2, _, rfl⟩, inTime, same, rfl, rfl, twice, ((crawls config).2.2 0 {}).1 ?_⟩
  -- the scenario gives its task the id that the polls above are of
  rintro id accepted ⟨attempts, latency, timedOut⟩
  cases accepted
  cases timedOut

end Scenario

end ServiceProbe
