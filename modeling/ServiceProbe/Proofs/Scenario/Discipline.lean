import ServiceProbe.Proofs.Scenario.Evidence
import ServiceProbe.Proofs.Scenario.Sequence
import ServiceProbe.Proofs.Session.Allowance

/-!
# What the scenarios ask of a service

The standard scenarios leave nothing behind that could disturb the next one: each asks about its own tasks only, and
no oftener than it is allowed (`Scenario.allowance`). What a procedure is allowed is read off the procedure, and a
service that refuses, or makes the client break off, only cuts a record short.

* `Scenario.kept_ofTask`, `Scenario.kept_taskCancellation`, `Scenario.kept_concurrentTasks`,
  `Scenario.kept_rateLimiting` — the scenarios by themselves;
* `Scenario.entries_runAll` — the record of a run is the records of its scenarios, one behind the other;
* `Scenario.runAll_keeps_discipline` — any choice of the scenarios, in their order, with each record in its turn.
-/

namespace ServiceProbe

namespace Scenario

variable {σ : Type} (service : Service σ) (config : Config)

/-- The record of a scenario that begins at a moment. -/
def record (scenario : Scenario) (moment : Moment σ) : List Entry :=
  (scenario.body config).entries service moment.instant moment.state

/-! ### The scenarios by themselves -/

theorem record_ofProcedure (name : String) (body : Config → Procedure (Except Failure Verdict))
    (moment : Moment σ) :
    (ofProcedure name body).record service config moment =
      (body config).entries service moment.instant moment.state :=
  List.append_nil _

/-- A task that is polled once it is accepted. -/
theorem keeps_poll_of_accepted {α : Type} (polling : Polling) (endpoint : Endpoint) (id : String)
    (submitted : Nanos) (f : Outcome → α) :
    ((polling.poll ⟨id, endpoint, submitted⟩).bind fun outcome => .done (f outcome)).Keeps [(endpoint, id)] 0
      polling.maxAttempts 0 :=
  (polling.keeps_poll ⟨id, endpoint, submitted⟩ List.mem_cons_self).bind_done f

/-- A scenario of one task submits it once and polls it. -/
theorem kept_ofTask (name : String) (polling : Config → Polling) (endpoint : Endpoint)
    (payload : Config → Payload) (evidence : Snapshot → Verdict) (moment : Moment σ) :
    Allowance.Kept ⟨1, 1, 0, (polling config).maxAttempts⟩
      ((ofTask name polling endpoint payload evidence).record service config moment) := by
  have keeps : (taskProcedure (polling config) endpoint (payload config) evidence).Keeps
      [] 1 (polling config).maxAttempts 0 :=
    .submitTask_bind (fun id submitted => keeps_poll_of_accepted _ _ id submitted _) fun e => .done _
  rw [record, body_ofTask]
  change Allowance.Kept _ (_ ++ [])
  rw [List.append_nil]
  exact .of_keeps keeps service _ _ (Procedure.one_le_submissions service _ _ _ _ _ _)

/-- A cancellation is asked for once, and after it the status at most once. -/
theorem kept_taskCancellation (moment : Moment σ) :
    Allowance.Kept ⟨1, 1, 1, 1⟩ (taskCancellation.record service config moment) := by
  rw [taskCancellation, record_ofProcedure]
  refine .of_keeps ?_ service _ _ (Procedure.one_le_submissions service _ _ _ _ _ _)
  -- it goes on to the next request only behind an answer to the one before
  refine .submitTask_bind (fun id submitted => ?_) fun e => .done _
  refine .sleep _ (.cancel List.mem_cons_self fun answer => ?_)
  match answer with
  | .error e => exact .done _
  | .ok false => exact .done _
  | .ok true =>
    refine .sleep _ (.check List.mem_cons_self fun answer => ?_)
    cases answer with
    | error e => exact .done _
    | ok snapshot => exact .done _

/-- Each of the tasks that run at once is submitted once and polled. -/
theorem kept_concurrentJob {procedure : Procedure (Except Error Outcome)}
    (isJob : .built procedure = concurrentJob config) (now : Nanos) (state : σ) :
    Allowance.Kept ⟨1, 1, 0, config.pollingOf.maxAttempts⟩ (procedure.entries service now state) := by
  obtain rfl := Job.built.inj isJob
  refine .of_keeps ?_ service _ _ (Procedure.one_le_submissions service _ _ _ _ _ _)
  exact .submitTask_bind (fun id submitted => keeps_poll_of_accepted _ _ id submitted _) fun e => .done _

/-- The tasks that run at once are submitted each once, and polled side by side. -/
theorem kept_concurrentTasks (moment : Moment σ) :
    Allowance.Kept ⟨5, 5, 0, config.pollingOf.maxAttempts⟩
      (concurrentTasks.record service config moment) := by
  change Allowance.Kept _ (Pool.entries _ _ _ _ _ ++ [])
  rw [List.append_nil, Pool.entries]
  let jobs := List.replicate concurrentCount (concurrentJob config)
  let lanes := Pool.lanesFrom service (Pool.workers concurrentCount) moment.instant [] moment.state jobs
  have count : lanes.length = 5 := (Pool.length_lanesFrom service _ _ _ _ jobs).trans List.length_replicate
  -- each lane keeps to an allowance of its own, and merging the lanes adds them up
  have each : ∀ lane ∈ lanes, Allowance.Kept ⟨1, 1, 0, config.pollingOf.maxAttempts⟩ lane := by
    intro lane member
    rcases Pool.mem_lanesFrom service _ member with ⟨text, among, -⟩ | ⟨procedure, start, state, among, rfl⟩
    · cases List.eq_of_mem_replicate among
    · exact kept_concurrentJob service config (List.eq_of_mem_replicate among) start state
  have merged := Allowance.Kept.merge each
  rwa [count] at merged

/-- With so many requests left, a probe of the rate limit submits at most that often and asks for nothing else. -/
theorem keeps_probeRateLimit (held : List (Endpoint × String)) (made left : Nat) :
    (probeRateLimit made left).Keeps held left 0 0 := by
  induction left generalizing held made with
  | zero => exact .done _
  | succ left ih =>
    refine .submitTask_bind (fun id submitted => ?_) fun e => ?_
    · cases rateLimitDecision? (made + 1) (.ok ⟨id, .scrape, submitted⟩) with
      | some decision => exact .done decision
      | none => exact ih _ (made + 1)
    · cases rateLimitDecision? (made + 1) (.error e) with
      | some decision => exact .done decision
      | none => exact ih _ (made + 1)

theorem kept_rateLimiting (moment : Moment σ) :
    Allowance.Kept ⟨1, 105, 0, 0⟩ (rateLimiting.record service config moment) := by
  rw [rateLimiting, record_ofProcedure]
  exact .of_keeps (keeps_probeRateLimit [] 0 rateLimitRequests) service _ _
    (Procedure.one_le_submissions service _ _ _ _ _ _)

/-! ### One scenario behind the other -/

/-- What each of the standard scenarios is allowed, but for the one about refusals. -/
def allowance (config : Config) (name : String) : Allowance :=
  let attempts := config.polling.maxAttempts.toNat
  if name = "concurrent tasks" then { fewest := 5, most := 5, cancellations := 0, checks := attempts }
  else if name = "rate limiting" then { fewest := 1, most := 105, cancellations := 0, checks := 0 }
  else if name = "task cancellation" then { fewest := 1, most := 1, cancellations := 1, checks := 1 }
  else if name = "crawl full" then
    { fewest := 1, most := 1, cancellations := 0, checks := min (2 * attempts) (UInt32.size - 1) }
  else { fewest := 1, most := 1, cancellations := 0, checks := attempts }

/-- Each of the standard scenarios but one keeps to its allowance, whenever it begins. -/
theorem kept_of_mem_standard {scenario : Scenario} (member : scenario ∈ standard)
    (other : scenario.name ≠ "error handling") (moment : Moment σ) :
    (allowance config scenario.name).Kept (scenario.record service config moment) := by
  simp only [standard, List.mem_cons, List.not_mem_nil, or_false] at member
  -- those for one task differ in their parameters alone, the long one also in its budget
  rcases member with rfl | rfl | rfl | rfl | rfl | rfl | rfl | rfl | rfl | rfl
  · exact kept_ofTask service config _ Config.pollingOf _ _ _ moment
  · exact kept_ofTask service config _ Config.pollingOf _ _ _ moment
  · exact kept_ofTask service config _ Config.pollingOf _ _ _ moment
  · exact kept_ofTask service config _ Config.pollingOf _ _ _ moment
  · exact kept_ofTask service config _ Config.pollingOf _ _ _ moment
  · exact kept_ofTask service config _ (fun config => config.pollingOf.doubled) _ _ _ moment
  · exact kept_taskCancellation service config moment
  · exact kept_concurrentTasks service config moment
  · exact absurd rfl other
  · exact kept_rateLimiting service config moment

/-- The record of scenarios performed one after the other. -/
theorem entries_performAll (scenarios : List Scenario) (begun : Moment σ) :
    (performAll config scenarios).entries service begun.instant begun.state =
      (scenarios.mapIdx fun position scenario =>
        scenario.record service config (turn service config scenarios begun position)).flatten := by
  induction scenarios generalizing begun with
  | nil => rfl
  | cons scenario rest ih =>
    rw [performAll_cons, List.mapIdx_cons, List.flatten_cons, Session.entries, Session.entries_bind]
    refine congrArg (_ ++ ·) ?_
    rw [Session.entries, Session.entries_bind]
    refine (List.append_nil _).trans ?_
    exact ih (passing service config begun scenario)

/-- **The record of a run.** It is the records of the scenarios in their turns, one behind the other. -/
theorem entries_runAll (scenarios : List Scenario) (begun : Moment σ) :
    (runAll config scenarios).entries service begun.instant begun.state =
      (scenarios.mapIdx fun position scenario =>
        scenario.record service config (turn service config scenarios begun position)).flatten := by
  rw [runAll_eq_bind, Session.entries_bind, entries_performAll]
  exact List.append_nil _

/-- A scenario asks nothing before its turn and nothing after it. -/
theorem within_of_mem_record {scenarios : List Scenario} {position : Nat} {scenario : Scenario}
    (here : scenarios[position]? = some scenario) (begun : Moment σ) {entry : Entry}
    (member : entry ∈ scenario.record service config (turn service config scenarios begun position)) :
    (turn service config scenarios begun position).instant ≤ entry.step.instant ∧
      entry.step.instant ≤ (turn service config scenarios begun (position + 1)).instant := by
  rw [turn_succ service config here]
  have timely := Session.timely_run service (scenario.body config)
    (turn service config scenarios begun position).instant (turn service config scenarios begun position).state
  refine timely.within entry.step ?_
  rw [← Session.map_step_entries]
  exact List.mem_map_of_mem member

/-- **Call discipline.** Any of the standard scenarios but the one about refusals, performed in their order against
any service: the record of the run is the records of the scenarios, one behind the other, and each lies between
the beginning of its scenario and that of the next. In each of them a request about a task follows an accepted
submission of that task, and everything is asked for as often as allowed at most: five submissions where tasks run
at once, up to 105 and no status request for the rate limit, otherwise one submission; a cancellation, and one
status request, where a task is cancelled; and for each task as many status requests as a poll has attempts, twice
as many for a long crawl. -/
theorem runAll_keeps_discipline {scenarios : List Scenario} (chosen : scenarios.Sublist standard)
    (without : ∀ scenario ∈ scenarios, scenario.name ≠ "error handling") (begun : Nanos) (state : σ) :
    let turn := turn service config scenarios ⟨begun, state⟩
    let records := scenarios.mapIdx fun position scenario => scenario.record service config (turn position)
    (runAll config scenarios).entries service begun state = records.flatten ∧
    records.flatten.map Entry.step = ((runAll config scenarios).run service begun state).trace ∧
    ∀ position scenario, scenarios[position]? = some scenario →
      let record := scenario.record service config (turn position)
      (∀ entry ∈ record, (turn position).instant ≤ entry.step.instant ∧
        entry.step.instant ≤ (turn (position + 1)).instant) ∧
      (allowance config scenario.name).Kept record := by
  intro turn records
  have whole : (runAll config scenarios).entries service begun state = records.flatten :=
    entries_runAll service config scenarios ⟨begun, state⟩
  refine ⟨whole, whole ▸ Session.map_step_entries service _ begun state, fun position scenario here => ⟨?_, ?_⟩⟩
  · exact fun entry member => within_of_mem_record service config here ⟨begun, state⟩ member
  · have member := List.mem_of_getElem? here
    exact kept_of_mem_standard service config (chosen.subset member) (without scenario member) (turn position)

/-- Scenarios that break off in their status requests keep to what they are allowed. -/
theorem runAll_keeps_discipline_through_crashes :
    let service := Script.service { status := fun _ => ⟨.crashes "boom", 0⟩ }
    let scenarios := [scrapeBasic, taskCancellation]
    let second := taskCancellation.record service {} (turn service {} scenarios ⟨0, {}⟩ 1)
    scenarios.Sublist standard ∧ (∀ scenario ∈ scenarios, scenario.name ≠ "error handling") ∧
      ((runAll {} scenarios).run service 0 {}).trace.length = 5 ∧
      second.countP Entry.isCheck = 1 ∧ (allowance {} "task cancellation").Kept second := by
  intro service scenarios second
  have chosen : scenarios.Sublist standard := by
    have behind : [taskCancellation].Sublist (standard.drop 1) :=
      List.singleton_sublist.2 (by simp [standard])
    exact behind.cons_cons scrapeBasic
  have without : ∀ scenario ∈ scenarios, scenario.name ≠ "error handling" := by
    intro scenario member
    rcases List.mem_cons.1 member with rfl | member
    · decide
    · rw [List.mem_singleton.1 member]
      decide
  -- the first one breaks off at its status check, and the second keeps its allowance all the same
  obtain ⟨-, -, each⟩ := runAll_keeps_discipline service {} chosen without 0 {}
  exact ⟨chosen, without, rfl, rfl, (each 1 taskCancellation rfl).2⟩

end Scenario

end ServiceProbe
