import ServiceProbe.Config.Basic
import ServiceProbe.Session.Program

/-!
# Load tests

A load test submits a number of tasks to one endpoint with a bounded number of workers, polls each to its
end and summarizes the outcomes. An outcome is counted from its own submission, so that waiting for a
worker is no part of it. Each poll that ends is recorded as an event.
-/

namespace ServiceProbe

open Number (Double)

/-- What a load test does. -/
structure LoadPlan where
  endpoint : Endpoint
  count : Nat
  workers : Nat
  polling : Polling := {}
  summary : SummaryOptions := {}

namespace LoadPlan

/-- The load test of a configuration. -/
def ofConfig (config : Config) : Except Error LoadPlan := do
  return {
    endpoint := ← Endpoint.parse config.load.endpoint
    count := config.load.concurrency.toNat
    workers := config.load.workerBudget.toNat
    polling := config.pollingOf
    summary := config.summaryOptions }

/-- What one invocation does: it submits its payload and polls the task. -/
def invocation (plan : LoadPlan) (index : Nat) (payload : Payload) :
    Procedure (Except Error Outcome) := do
  match ← Procedure.submitTask plan.endpoint payload with
  | .error e => return .error e
  | .ok handle =>
    let outcome ← plan.polling.poll handle
    Procedure.note (.invocationOutcome index outcome)
    return .ok outcome

end LoadPlan

/-- A payload, or the text with which making it broke off. -/
abbrev PayloadSource := Nat → Except (Option String) Payload

namespace LoadPlan

/-- The job of one invocation. -/
def job (plan : LoadPlan) (payloads : PayloadSource) (index : Nat) : Job :=
  match payloads index with
  | .ok payload => .built (plan.invocation index payload)
  | .error text => .unbuilt text

end LoadPlan

/-- What a load test found. -/
structure LoadReport where
  reports : List Report
  summary : Summary
  wallTime : Nanos

namespace LoadReport

/-- The report of a load test whose invocations reported this. -/
def of (plan : LoadPlan) (reports : List Report) (wallTime : Nanos) : LoadReport :=
  { reports
    summary := Summary.of (reports.map (·.outcome)) plan.summary
    wallTime }

/-- Tasks per second; zero if no time passed. -/
def throughput (report : LoadReport) : Double :=
  if report.wallTime = 0 then Double.zero
  else (Double.ofNat report.summary.total).div (Nanos.seconds report.wallTime)

/-- Every outcome counts as a success. -/
def passed (report : LoadReport) : Bool :=
  report.summary.allSucceeded

/-- The invocations whose outcome is no success, by index. -/
def failures (report : LoadReport) : List Report :=
  Report.byIndex (report.reports.filter fun entry => !entry.outcome.isSuccess)

/-- The report as lines of text, under the id of the run. -/
def describe (report : LoadReport) (runId : String) (endpoint : Endpoint) : String :=
  s!"Run {runId} against {endpoint.path}\n" ++
    s!"Wall time:    {(Nanos.seconds report.wallTime).fixed 2}s\n" ++
    s!"Throughput:   {report.throughput.fixed 2} tasks/s\n" ++
    report.summary.describe ++ "\n" ++
    String.join (report.failures.map fun entry =>
      s!"  task {entry.index}: {entry.outcome.describe}\n")

end LoadReport

/-- Runs a load test. It breaks off with its pool. -/
def LoadPlan.session (plan : LoadPlan) (payloads : PayloadSource) : Session (Ending LoadReport) := do
  let started ← Session.now
  match ← Session.inPool plan.workers plan.count (plan.job payloads) with
  | .crashed text => return .crashed text
  | .returned reports =>
    let finished ← Session.now
    return .returned (LoadReport.of plan reports (finished - started))

namespace LoadPlan

variable {σ τ : Type} (plan : LoadPlan) (payloads : PayloadSource)

/-- The play of a load test from the end of its pool. -/
def playOf (begun : Nanos) (state : σ) : Ending (PoolRun σ) → Session.Played σ (Ending LoadReport)
  | .crashed text => { result := .crashed text, finish := begun, state }
  | .returned pool =>
    { result := .returned (LoadReport.of plan pool.reports (pool.finish - begun))
      finish := pool.finish
      state := pool.state
      trace := Session.batchTrace pool.spells }

/-- A load test that is run is played so, with a service that its invocations share. -/
theorem run_session (service : Service σ) (begun : Nanos) (state : σ) :
    (plan.session payloads).run service begun state =
      plan.playOf begun state
        (Pool.launch plan.workers begun state plan.count fun index => (plan.job payloads index).shared service) := by
  have opened : plan.session payloads =
      .clock fun started => .batch plan.workers plan.count (plan.job payloads) fun
        | .crashed text => .done (.crashed text)
        | .returned reports =>
          .clock fun finished => .done (.returned (LoadReport.of plan reports (finished - started))) := rfl
  rw [opened, Session.run, Session.run, Session.runBatch]
  cases Pool.launch plan.workers begun state plan.count fun index => (plan.job payloads index).shared service with
  | crashed text => rfl
  | returned pool => exact congrArg (Session.Played.mk _ _ _ · _) (List.append_nil _)

variable (services : Nat → Service τ) (initial : Nat → τ)

/-- The pool of a load test in which each invocation has a service of its own to talk to, so that each task is
answered for itself, whatever the others do. -/
def poolApart (begun : Nanos) : Ending (PoolRun Unit) :=
  Pool.launch plan.workers begun () plan.count fun index =>
    (plan.job payloads index).alone (services index) (initial index)

/-- The play of such a load test. -/
def playApart (begun : Nanos) : Session.Played Unit (Ending LoadReport) :=
  plan.playOf begun () (plan.poolApart payloads services initial begun)

end LoadPlan

end ServiceProbe
