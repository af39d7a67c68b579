import ServiceProbe.LoadTest
import ServiceProbe.Proofs.Pool.Steady
import ServiceProbe.Proofs.Summary.Order
import ServiceProbe.Session.Script

/-!
# A load test measures the service

The invocations of a load test wait for a worker, so the number of workers decides when a task is submitted
and polled. It decides nothing else: an invocation compares instants only (`LoadPlan.later_invocation`), and
so has a behaviour that can be stated without the pool. What a load test finds is read off those behaviours
(`LoadPlan.Shows`), and two load tests with the same behaviours agree (`LoadPlan.Shows.agree`).

* `LoadPlan.ending_invocation` — an invocation whose task is accepted and polled to an end returns the outcome
  of that poll;
* `LoadPlan.playApart_measures_service` — with a service for each invocation, load tests that differ in the
  number of workers agree, and each outcome is the one of its task alone, as long as there is a channel for their
  reports;
* `LoadPlan.session_measures_service` — they agree as well where the invocations share a service.
-/

namespace ServiceProbe

namespace LoadPlan

open Procedure (Later)

/-! ### Load tests that find the same -/

/-- Two load tests agree, by their reports and their steps, in all but the order of what happened and the time that it
took. -/
structure Agree (report : LoadReport) (trace : List Step) (report' : LoadReport) (trace' : List Step) : Prop where
  /-- Each index has the same outcome, its latency included. -/
  reports : report.reports.Perm report'.reports
  /-- The event at the end of an invocation bears its index, so each index has the same one or none. -/
  events : (trace.filterMap Step.event?).Perm (trace'.filterMap Step.event?)
  /-- As many status requests were made. -/
  checks : (trace.filter Step.isCheck).length = (trace'.filter Step.isCheck).length
  /-- All figures are the same, those in floating point bit for bit. -/
  summary : report.summary = report'.summary

/-- The report and the steps of a load test show what its invocations do by themselves, in some order. -/
structure Shows (report : LoadReport) (trace : List Step) (options : SummaryOptions) (behaviours : List Behaviour) :
    Prop where
  reports : report.reports.Perm (Behaviour.reports behaviours)
  steps : (trace.map Step.undated).Perm
    (behaviours.flatMap fun behaviour => behaviour.steps.map Step.undated)
  summary : report.summary = Summary.of (report.reports.map (·.outcome)) options

/-- Load tests that show the same behaviours agree. -/
theorem Shows.agree {report report' : LoadReport} {trace trace' : List Step} {options : SummaryOptions}
    {behaviours : List Behaviour} (h : Shows report trace options behaviours)
    (h' : Shows report' trace' options behaviours) : Agree report trace report' trace' := by
  -- the order of the outcomes differs, and the summaries have to be shown not to depend on it
  have reports := h.reports.trans h'.reports.symm
  have steps := h.steps.trans h'.steps.symm
  refine ⟨reports, Step.events_perm steps, Step.length_checks_eq steps, ?_⟩
  rw [h.summary, h'.summary]
  exact Summary.of_eq_of_perm (reports.map (·.outcome)) options

/-! ### Invocations of a load test -/

variable (plan : LoadPlan) (payloads : PayloadSource)

/-- An invocation compares instants only: the outcome is counted from the submission, the limit on the time
as well. -/
theorem later_invocation (span : Nanos) (index : Nat) (payload : Payload) :
    Later span id (plan.invocation index payload) (plan.invocation index payload) := by
  refine (Procedure.later_submitTask span plan.endpoint payload .configured).bind fun answer => ?_
  cases answer with
  | error e => exact .done _
  | ok handle =>
    refine (plan.polling.later_poll span handle).bind fun outcome => ?_
    exact (Procedure.later_note span _).bind fun _ => .done _

theorem timeless_job (index : Nat) : (plan.job payloads index).Timeless := by
  unfold job
  split
  · next payload _ => exact fun span => plan.later_invocation span index payload
  · trivial

/-- The pool of a load test shows what its invocations do one after the other. -/
theorem shows_run {σ : Type} (begun : Nanos) (state : σ) (wallTime : Nanos) {invocations : List (Invocation σ)}
    (steady : ∀ invocation ∈ invocations, invocation.Steady) :
    let pool := Pool.run plan.workers begun state invocations
    Shows (LoadReport.of plan pool.reports wallTime) (Session.batchTrace pool.spells) plan.summary
      (Invocation.behaviours state invocations) :=
  ⟨Pool.reports_of_steady plan.workers begun state steady, Pool.steps_of_steady plan.workers begun state steady, rfl⟩

/-! ### A service for each invocation -/

variable {τ : Type} (services : Nat → Service τ) (initial : Nat → τ)

/-- What the invocation with an index does by itself, counted from the instant at which it gets its worker. -/
def behaviour (index : Nat) : Behaviour :=
  ((plan.job payloads index).alone (services index) (initial index)).behaviour ()

/-- What the invocations do by themselves, by index. -/
def behaviours : List Behaviour :=
  Behaviour.list (plan.behaviour payloads services initial) plan.count

/-- A load test with a service for each invocation shows what each of them does by itself, if there is a channel for
its reports. -/
theorem exists_shows_playApart (channel : Pool.HasChannel plan.workers plan.count) (begun : Nanos) :
    ∃ report, (plan.playApart payloads services initial begun).result = .returned report ∧
      Shows report (plan.playApart payloads services initial begun).trace plan.summary
        (plan.behaviours payloads services initial) := by
  -- an invocation with a service of its own does the same whenever it starts
  have steady : ∀ invocation ∈ (List.range plan.count).map fun index =>
      (plan.job payloads index).alone (services index) (initial index), invocation.Steady := by
    intro invocation member
    obtain ⟨index, -, rfl⟩ := List.mem_map.1 member
    exact (plan.timeless_job payloads index).steady_alone (services index) (initial index)
  have alone : Invocation.behaviours () ((List.range plan.count).map fun index =>
      (plan.job payloads index).alone (services index) (initial index)) =
        plan.behaviours payloads services initial := by
    rw [Invocation.behaviours_unit, List.map_map]
    rfl
  rw [playApart, poolApart, Pool.launch_of_hasChannel channel]
  exact ⟨_, rfl, alone ▸ plan.shows_run begun () _ steady⟩

/-- An invocation whose task is accepted and polled to an end returns the outcome of that poll. -/
theorem ending_invocation (index : Nat) (payload : Payload) {service : Service τ} {now : Nanos} {state : τ}
    {handle : Handle} {outcome : Outcome}
    (accepted : ((Procedure.submitTask plan.endpoint payload).run service now state).ending =
      .returned (.ok handle))
    (polled : ((plan.polling.poll handle).run service
      ((Procedure.submitTask plan.endpoint payload).run service now state).finish
      ((Procedure.submitTask plan.endpoint payload).run service now state).state).ending =
        .returned outcome) :
    ((plan.invocation index payload).run service now state).ending = .returned (.ok outcome) := by
  refine (Procedure.ending_run_bind accepted).trans ?_
  refine (Procedure.ending_run_bind polled).trans ?_
  rfl

/-- The outcome that an invocation returns at any instant is the one of its behaviour. -/
theorem outcome_behaviour {index : Nat} {payload : Payload} (source : payloads index = .ok payload)
    {now : Nanos} {outcome : Outcome}
    (returns : ((plan.invocation index payload).run (services index) now (initial index)).ending =
      .returned (.ok outcome)) :
    (plan.behaviour payloads services initial index).outcome = outcome := by
  have run := (plan.later_invocation now index payload).run (services index) 0 (initial index)
  rw [Nat.zero_add] at run
  -- the end of the run says nothing about the instant
  rw [run, Run.later, Ending.map_id] at returns
  rw [behaviour, job, source]
  change Behaviour.outcome (.lasting _ (.ofEnding ((plan.invocation index payload).run (services index) 0
    (initial index)).ending) _) = outcome
  rw [returns]
  rfl

/-- **A load test measures the service, not the queue.** Unless both the number of invocations and that of workers are
out of all proportion, a load test ends and reports each index once. Two such load tests of the same services, with
any two numbers of workers and begun at any instants, report the same outcome for each index, its latency included;
they record the same events and make as many status requests; and their summaries agree bit for bit, although the
outcomes come in another order. Moreover the outcome for an index whose task is accepted and polled to an end is the
one that submitting and polling that task alone gives, at whatever instant. Otherwise the load test breaks off, and
nothing is measured. -/
theorem playApart_measures_service (begun : Nanos) :
    let play := plan.playApart payloads services initial begun
    (plan.count < 2 ^ 61 ∨ plan.workers < 2 ^ 60 → ∃ report, play.result = .returned report ∧
      (report.reports.map (·.index)).Perm (List.range plan.count) ∧
      (∀ workers begun', plan.count < 2 ^ 61 ∨ workers < 2 ^ 60 →
        let play' := { plan with workers }.playApart payloads services initial begun'
        ∃ report', play'.result = .returned report' ∧ Agree report' play'.trace report play.trace) ∧
      ∀ index < plan.count, ∀ payload, payloads index = .ok payload → ∀ now handle outcome,
        let submission := (Procedure.submitTask plan.endpoint payload).run (services index) now (initial index)
        submission.ending = .returned (.ok handle) →
        ((plan.polling.poll handle).run (services index) submission.finish submission.state).ending =
            .returned outcome →
        ∀ outcome', ⟨index, outcome'⟩ ∈ report.reports ↔ outcome' = outcome) ∧
    (2 ^ 61 ≤ plan.count → 2 ^ 60 ≤ plan.workers →
      play.result = .crashed (some Pool.noChannel) ∧ play.trace = []) := by
  intro play
  refine ⟨fun proportionate => ?_, fun many wide => ?_⟩
  · obtain ⟨report, returns, shows⟩ :=
      plan.exists_shows_playApart payloads services initial (Pool.hasChannel_iff.2 proportionate) begun
    refine ⟨report, returns, ?_, ?_, ?_⟩
    · have indices := shows.reports.map (·.index)
      rwa [Behaviour.index_reports, behaviours, Behaviour.length_list] at indices
    · intro workers begun' proportionate' play'
      obtain ⟨report', returns', shows'⟩ :=
        { plan with workers }.exists_shows_playApart payloads services initial
          (Pool.hasChannel_iff.2 proportionate') begun'
      -- the behaviours say nothing about workers
      exact ⟨report', returns', Shows.agree shows' shows⟩
    · intro index bound payload source now handle outcome submission accepted polled outcome'
      have returned := plan.ending_invocation index payload accepted polled
      have own := plan.outcome_behaviour payloads services initial source returned
      rw [shows.reports.mem_iff, Behaviour.mem_reports_iff, behaviours, Behaviour.getElem?_list bound,
        Option.map_some, own, Option.some_inj]
      exact eq_comm
  · have crashes : plan.poolApart payloads services initial begun = .crashed (some Pool.noChannel) :=
      Pool.launch_of_excessive many wide
    rw [show play = plan.playOf begun () _ from rfl, crashes]
    exact ⟨rfl, rfl⟩

/-- A service that accepts every task and has completed it at the first status request. -/
def promptScript : Script :=
  { status := fun _ => ⟨.returns (.ok (Snapshot.ofStatus .completed)), 0⟩ }

/-- The play of a load test of so many tasks against such services. -/
def promptPlay (count workers : Nat) : Session.Played Unit (Ending LoadReport) :=
  { endpoint := .scrape, count, workers : LoadPlan }.playApart (fun _ => .ok (.raw .null))
    (fun _ => promptScript.service) (fun _ => {}) 0

/-- Three tasks have the same outcomes with one worker and with two, and that of each is the one of its poll. -/
theorem playApart_measures_service_of_three :
    (3 < 2 ^ 61 ∨ 1 < 2 ^ 60) ∧ (3 < 2 ^ 61 ∨ 2 < 2 ^ 60) ∧
      ∃ report report', (promptPlay 3 1).result = .returned report ∧ (promptPlay 3 2).result = .returned report' ∧
        Agree report' (promptPlay 3 2).trace report (promptPlay 3 1).trace ∧
        ⟨2, .success (Snapshot.ofStatus .completed) (Nanos.ofMillis 2000)⟩ ∈ report.reports := by
  have one : 3 < 2 ^ 61 ∨ 1 < 2 ^ 60 := by decide
  have two : 3 < 2 ^ 61 ∨ 2 < 2 ^ 60 := by decide
  obtain ⟨report, returns, -, agree, polled⟩ :=
    ({ endpoint := .scrape, count := 3, workers := 1 : LoadPlan }.playApart_measures_service
      (fun _ => .ok (.raw .null)) (fun _ => promptScript.service) (fun _ => {}) 0).1 one
  obtain ⟨report', returns', agree⟩ := agree 2 0 two
  have last := polled 2 (by decide) (.raw .null) rfl 0 ⟨"task-0", .scrape, 0⟩
    (.success (Snapshot.ofStatus .completed) (Nanos.ofMillis 2000)) rfl rfl
  exact ⟨one, two, report, report', returns, returns', agree, (last _).2 rfl⟩

/-- A load test of 2⁶¹ tasks reports on all of them with one worker, and on none with 2⁶⁰. -/
theorem playApart_depends_on_workers :
    (∃ report, (promptPlay (2 ^ 61) 1).result = .returned report) ∧
      (promptPlay (2 ^ 61) (2 ^ 60)).result = .crashed (some Pool.noChannel) := by
  constructor
  · obtain ⟨report, returns, -⟩ :=
      exists_shows_playApart { endpoint := .scrape, count := 2 ^ 61, workers := 1 } (fun _ => .ok (.raw .null))
        (fun _ => promptScript.service) (fun _ => {}) (Pool.hasChannel_iff.2 (.inr (by decide))) 0
    exact ⟨report, returns⟩
  · rw [promptPlay, playApart, poolApart, Pool.launch_of_excessive (by decide) (by decide)]
    rfl

/-! ### A service that the invocations share -/

variable {σ : Type} (service : Service σ)

/-- A load test whose invocations share a service shows what they do one after the other, if there is a channel for its
reports. -/
theorem exists_shows_session (channel : Pool.HasChannel plan.workers plan.count) (begun : Nanos) (state : σ) :
    ∃ report, ((plan.session payloads).run service begun state).result = .returned report ∧
      Shows report ((plan.session payloads).run service begun state).trace plan.summary
        (Invocation.behaviours state
          ((List.range plan.count).map fun index => (plan.job payloads index).shared service)) := by
  rw [run_session, Pool.launch_of_hasChannel channel]
  refine ⟨_, rfl, plan.shows_run begun state _ fun invocation member => ?_⟩
  obtain ⟨index, -, rfl⟩ := List.mem_map.1 member
  exact (plan.timeless_job payloads index).steady_shared service

/-- **The same with one service.** The invocations meet a shared service in the order of their indices,
whatever the number of workers, so that two load tests agree there as well. -/
theorem session_measures_service {workers : Nat} (channel : Pool.HasChannel plan.workers plan.count)
    (channel' : Pool.HasChannel workers plan.count) (begun begun' : Nanos) (state : σ) :
    let play := (plan.session payloads).run service begun state
    let play' := ({ plan with workers }.session payloads).run service begun' state
    ∃ report report', play.result = .returned report ∧ play'.result = .returned report' ∧
      Agree report' play'.trace report play.trace := by
  intro play play'
  obtain ⟨report, returns, shows⟩ := plan.exists_shows_session payloads service channel begun state
  obtain ⟨report', returns', shows'⟩ :=
    { plan with workers }.exists_shows_session payloads service channel' begun' state
  exact ⟨report, report', returns, returns', Shows.agree shows' shows⟩

end LoadPlan

end ServiceProbe
