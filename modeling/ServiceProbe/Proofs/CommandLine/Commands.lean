import ServiceProbe.CommandLine.Program
import ServiceProbe.Proofs.Config.Readiness
import ServiceProbe.Proofs.Pool.Attribution
import ServiceProbe.Proofs.Pool.WorkerBudget
import ServiceProbe.Proofs.Scenario.Sequence
import ServiceProbe.Proofs.Session.Motion
import ServiceProbe.Proofs.Summary.Counts

/-!
# The health check and the commands

Once there is a configuration and a client, the program is a session: a health check, unless it is skipped, and then a
command. Everything here is about that session over an arbitrary service, so that nothing depends on how a client
talks to one.

The health check is the first thing that the session does (`Arguments.run_session_of_asks`). What is left goes by its
result alone (`Arguments.afterCheck`), which leaves three cases: the service is not well, the health command is done,
or the command begins in the state that the check left (`Arguments.begun`).

* `Arguments.run_session_of_unwell`, `Arguments.run_session_of_health`, `Arguments.run_session_of_command` — the
  three cases;
* `Scenario.selected_eq`, `Command.run_scenarios` — which scenarios are run, and what is made of their results;
* `LoadOptions.plan_of_validate`, `Command.run_load` — which load test is run, and what is made of its outcomes.
-/

namespace ServiceProbe

/-! ### The health check -/

namespace Arguments

/-- The service is asked for its health before anything else. -/
def asksHealth (arguments : Arguments) : Bool :=
  !arguments.skipHealth || arguments.command = .health

/-- What follows the health check. -/
def afterCheck (arguments : Arguments) (config : Config) (runId : String) (well : Bool) : Session (Ending Bool) :=
  if !well || arguments.command = .health then .done (.returned well) else arguments.command.session config runId

variable {σ : Type} {arguments : Arguments} (config : Config) (client : Client) (runId : String)

/-- Where the health check is skipped there is only the command. -/
theorem session_of_skips (skips : arguments.asksHealth = false) :
    arguments.session config client runId = arguments.command.session config runId := by
  obtain ⟨skip, other⟩ := Bool.or_eq_false_iff.1 skips
  have skip : arguments.skipHealth = true := by rwa [Bool.not_eq_eq_eq_not] at skip
  rw [session, skip]
  dsimp only
  rw [other]
  rfl

/-- The health check comes first, and what is left goes by its result. -/
theorem run_session_of_asks (asks : arguments.asksHealth = true) (service : Service σ) (now : Nanos) (state : σ) :
    ∃ text, (arguments.session config client runId).run service now state =
      ((arguments.afterCheck config runId (service.health state).1).run service now
        (service.health state).2).afterText text := by
  have notSkipped : (arguments.skipHealth && !decide (arguments.command = .health)) = false := by
    rw [asksHealth] at asks
    revert asks
    cases arguments.skipHealth <;> cases decide (arguments.command = .health) <;> decide
  rw [session]
  dsimp only
  rw [notSkipped]
  exact ⟨_, rfl⟩

section decided

variable (service : Service σ) (now : Nanos) (state : σ)

/-- The health command is asked for nothing but health. -/
theorem asksHealth_of_health (isHealth : arguments.command = .health) : arguments.asksHealth = true := by
  rw [asksHealth, isHealth]
  exact Bool.or_true _

/-- The health check comes before all that the session does. -/
theorem moves_session_of_asks {onward : σ → σ → Prop} (moves : service.Moves onward)
    (asks : arguments.asksHealth = true) :
    onward (service.health state).2 ((arguments.session config client runId).run service now state).state := by
  obtain ⟨text, played⟩ := arguments.run_session_of_asks config client runId asks service now state
  rw [played]
  exact Session.moves_run moves _ now _

/-- A service that is not well is left alone. -/
theorem run_session_of_unwell (asks : arguments.asksHealth = true) (unwell : (service.health state).1 = false) :
    ((arguments.session config client runId).run service now state).result = .returned false ∧
      ((arguments.session config client runId).run service now state).state = (service.health state).2 := by
  obtain ⟨text, played⟩ := arguments.run_session_of_asks config client runId asks service now state
  rw [played, unwell]
  exact ⟨rfl, rfl⟩

/-- The health command is done after the health check. -/
theorem run_session_of_health (isHealth : arguments.command = .health) :
    ((arguments.session config client runId).run service now state).result = .returned (service.health state).1 ∧
      ((arguments.session config client runId).run service now state).state = (service.health state).2 := by
  obtain ⟨text, played⟩ :=
    arguments.run_session_of_asks config client runId (asksHealth_of_health isHealth) service now state
  have ended : arguments.afterCheck config runId (service.health state).1 =
      .done (.returned (service.health state).1) := by
    rw [afterCheck, isHealth]
    exact if_pos (Bool.or_true _)
  rw [played, ended]
  exact ⟨rfl, rfl⟩

/-- The state in which a command finds the service. -/
def begun (arguments : Arguments) : σ :=
  if arguments.asksHealth then (service.health state).2 else state

theorem begun_of_asks (asks : arguments.asksHealth = true) :
    arguments.begun service state = (service.health state).2 :=
  if_pos asks

theorem begun_of_skips (skips : arguments.asksHealth = false) : arguments.begun service state = state :=
  if_neg (Bool.eq_false_iff.1 skips)

/-- Any other command is carried out, if the service is well or is not asked. -/
theorem run_session_of_command (other : arguments.command ≠ .health)
    (well : arguments.asksHealth = true → (service.health state).1 = true) :
    let played := (arguments.session config client runId).run service now state
    let commanded := (arguments.command.session config runId).run service now (arguments.begun service state)
    played.result = commanded.result ∧ played.state = commanded.state ∧ played.trace = commanded.trace := by
  cases asks : arguments.asksHealth with
  | false =>
    rw [session_of_skips config client runId asks, begun_of_skips service state asks]
    exact ⟨rfl, rfl, rfl⟩
  | true =>
    obtain ⟨text, played⟩ := arguments.run_session_of_asks config client runId asks service now state
    have goesOn : arguments.afterCheck config runId true = arguments.command.session config runId := by
      rw [afterCheck]
      exact if_neg (by simp [other])
    -- the line about the health of the service is all that is added
    rw [well asks, goesOn] at played
    rw [played, begun_of_asks service state asks]
    exact ⟨rfl, rfl, rfl⟩

end decided

end Arguments

/-! ### Scenarios -/

/-- The scenarios that are chosen are those with a fragment in their name, or all. -/
theorem Scenario.selected_eq (only : List String) :
    Scenario.selected only = Scenario.standard.filter fun scenario =>
      only = [] ∨ ∃ fragment ∈ only, fragment.toList <:+: scenario.name.toList := by
  refine List.filter_congr fun scenario _ => Bool.eq_iff_iff.2 ?_
  rw [Bool.or_eq_true, List.isEmpty_iff, List.any_eq_true, decide_eq_true_iff]
  exact or_congr_right (exists_congr fun fragment => and_congr_right fun _ => Text.contains_iff)

/-- There is a result for each scenario, under its name. -/
theorem Scenario.names_runAll {σ : Type} (service : Service σ) (config : Config) (scenarios : List Scenario)
    (now : Nanos) (state : σ) :
    ((Scenario.runAll config scenarios).run service now state).result.results.map (·.name) =
      scenarios.map (·.name) := by
  have results := Scenario.results_runAll service config scenarios ⟨now, state⟩
  dsimp only at results
  rw [results]
  refine List.ext_getElem? fun position => ?_
  rw [List.getElem?_map, List.getElem?_mapIdx, List.getElem?_map, Option.map_map]
  rfl

/-! ### Load tests -/

namespace LoadOptions

/-- The load test of the options, over a configuration that names an endpoint. -/
def planOver (options : LoadOptions) (config : Config) (endpoint : Endpoint) : LoadPlan :=
  { endpoint := options.endpoint.getD endpoint
    count := options.count.getD config.load.concurrency.toNat
    workers := options.workers.getD config.load.workerBudget.toNat
    polling := config.pollingOf
    summary := config.summaryOptions }

/-- What the command line says replaces what the configuration says, and nothing else does. -/
theorem plan_of_validate {config : Config} (valid : config.validate = .ok ()) (options : LoadOptions) :
    ∃ endpoint, Endpoint.parse config.load.endpoint = .ok endpoint ∧
      options.plan config = .ok (options.planOver config endpoint) := by
  obtain ⟨endpoint, isEndpoint, isPlan⟩ := Config.ofConfig_of_validate valid
  refine ⟨endpoint, isEndpoint, ?_⟩
  rw [plan, isPlan]
  rfl

end LoadOptions

/-- All outcomes count as successes if each of them does. -/
theorem Summary.allSucceeded_iff {outcomes : List Outcome} {options : SummaryOptions} :
    (Summary.of outcomes options).allSucceeded = true ↔
      ∀ outcome ∈ outcomes, options.countsAsSuccess outcome = true := by
  show decide ((outcomes.filter options.countsAsSuccess).length = outcomes.length) = true ↔ _
  rw [decide_eq_true_iff, List.length_filter_eq_length_iff]

/-- A cancelled task counts as the configuration says. -/
theorem Config.countsAsSuccess_iff {config : Config} {outcome : Outcome} :
    config.summaryOptions.countsAsSuccess outcome = true ↔
      outcome.kind = .success ∨ outcome.kind = .cancelled ∧ config.load.cancelledCountsAsSuccess = true := by
  rw [SummaryOptions.countsAsSuccess_iff, summaryOptions]
  cases config.load.cancelledCountsAsSuccess <;> simp

/-- Each invocation of a load test is reported once. -/
theorem LoadPlan.indices_launch {σ : Type} {plan : LoadPlan} {begun : Nanos} {state : σ} {pool : PoolRun σ}
    {invocation : Nat → Invocation σ}
    (returns : Pool.launch plan.workers begun state plan.count invocation = .returned pool) :
    (pool.reports.map (·.index)).Perm (List.range plan.count) := by
  obtain ⟨-, rfl⟩ := Pool.launch_eq_returned_iff.1 returns
  have reports :=
    (Pool.run_reports_perm plan.workers begun state ((List.range plan.count).map invocation)).map (·.index)
  have numbered := Pool.index_run_spells plan.workers begun state ((List.range plan.count).map invocation)
  rw [List.length_map, List.length_range] at numbered
  rw [List.map_map] at reports
  exact reports.trans (.of_eq numbered)

/-! ### Running the commands -/

namespace Command

variable {σ : Type} (service : Service σ) (config : Config) (runId : String) (now : Nanos) (state : σ)

/-- The scenarios are run, and then their report is printed. -/
theorem run_scenarios (only : List String) :
    let played := (Scenario.runAll config (Scenario.selected only)).run service now state
    let commanded := (Command.session (.scenarios only) config runId).run service now state
    commanded.result = .returned played.result.allPassed ∧ commanded.state = played.state ∧
      commanded.trace = played.trace := by
  intro played commanded
  have run : commanded = Session.continued service _ played := Session.run_bind service _ _ now state
  rw [run]
  exact ⟨rfl, rfl, List.append_nil _⟩

/-- The load test is run, and then its report is printed, if there is one. -/
theorem run_load {options : LoadOptions} {plan : LoadPlan} (isPlan : options.plan config = .ok plan) :
    let launched := Pool.launch plan.workers now state plan.count fun index =>
      (plan.job (options.payloads config plan) index).shared service
    let commanded := (Command.session (.load options) config runId).run service now state
    (∀ pool, launched = .returned pool →
      commanded.result = .returned (Summary.of (pool.reports.map (·.outcome)) plan.summary).allSucceeded ∧
        commanded.state = pool.state ∧ commanded.trace = Session.batchTrace pool.spells) ∧
      ∀ text, launched = .crashed text →
        commanded.result = .crashed text ∧ commanded.state = state ∧ commanded.trace = [] := by
  intro launched commanded
  -- the report is printed when the batch has ended, unless its pool broke off
  have opened : ∃ goOn, Command.session (.load options) config runId =
        (plan.session (options.payloads config plan)).bind goOn ∧
      (∀ report, goOn (.returned report) =
        (Session.say (report.describe runId plan.endpoint)).bind fun _ => .done (.returned report.passed)) ∧
      ∀ text, goOn (.crashed text) = .done (.crashed text) := by
    rw [session, isPlan]
    exact ⟨_, rfl, fun _ => rfl, fun _ => rfl⟩
  obtain ⟨goOn, opened, printed, brokenOff⟩ := opened
  have run := congrArg (Session.run service · now state) opened
  rw [Session.run_bind, plan.run_session] at run
  rw [show commanded = _ from run]
  refine ⟨fun pool isPool => ?_, fun text isCrash => ?_⟩
  · rw [show Pool.launch _ _ _ _ _ = _ from isPool]
    dsimp only [Session.continued, LoadPlan.playOf]
    rw [printed]
    refine ⟨rfl, rfl, ?_⟩
    show (Session.batchTrace pool.spells) ++ ([] ++ []) = _
    rw [List.append_nil, List.append_nil]
  · rw [show Pool.launch _ _ _ _ _ = _ from isCrash]
    dsimp only [Session.continued, LoadPlan.playOf]
    rw [brokenOff]
    exact ⟨rfl, rfl, rfl⟩

end Command

end ServiceProbe
