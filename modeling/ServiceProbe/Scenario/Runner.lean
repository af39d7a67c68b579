import ServiceProbe.Config.Basic
import ServiceProbe.Session.Program

/-!
# Scenarios and their runner

A scenario drives the service and gives a verdict. It may instead fail for a reason, which contexts can be
wrapped around, or break off. The runner performs scenarios one at a time in their order and has one
result for each: neither a failure nor a break-off keeps the later ones from running.
-/

namespace ServiceProbe

open Number (Double)

/-- What a scenario found. -/
structure Verdict where
  passed : Bool
  detail : String
deriving DecidableEq

namespace Verdict

def pass (detail : String) : Verdict := ⟨true, detail⟩

def fail (detail : String) : Verdict := ⟨false, detail⟩

end Verdict

/-- Why there is no verdict. -/
inductive Failure where
  | message (text : String)
  | error (e : Error)
  | within (context : String) (cause : Failure)

namespace Failure

/-- The contexts from the outermost on, then the cause and what caused it. -/
def chain : Failure → List String
  | message text => [text]
  | error e => e.chain
  | within context cause => context :: cause.chain

/-- The failure in one line. -/
def describe (failure : Failure) : String :=
  Text.joinWith ": " failure.chain

end Failure

/-- What a scenario comes to. -/
abbrev ScenarioEnd := Ending (Except Failure Verdict)

/-- A scenario. What it does depends on the configuration. -/
structure Scenario where
  name : String
  body : Config → Session ScenarioEnd

namespace Scenario

/-- The scenario that performs a procedure. -/
def ofProcedure (name : String) (body : Config → Procedure (Except Failure Verdict)) : Scenario :=
  { name, body := fun config => Session.attempt (body config) }

end Scenario

/-- The result of one scenario. -/
structure ScenarioResult where
  name : String
  passed : Bool
  detail : String
  duration : Nanos
deriving DecidableEq

/-- A scenario as it was performed. -/
structure Performance where
  name : String
  verdict : Verdict
  start : Nanos
  finish : Nanos

namespace Performance

/-- What is reported: the verdict, or a failed one that says what happened instead. -/
def verdictOf : ScenarioEnd → Verdict
  | .returned (.ok verdict) => verdict
  | .returned (.error failure) => .fail s!"error: {failure.describe}"
  | .crashed text => .fail s!"panicked: {text.getD unknownCrash}"

/-- The result: it lasted from start to finish. -/
def result (performance : Performance) : ScenarioResult :=
  { name := performance.name
    passed := performance.verdict.passed
    detail := performance.verdict.detail
    duration := performance.finish - performance.start }

end Performance

/-- The results of some scenarios, in the order of the scenarios. -/
structure ScenarioReport where
  results : List ScenarioResult

namespace ScenarioReport

def passed (report : ScenarioReport) : Nat :=
  (report.results.filter (·.passed)).length

def total (report : ScenarioReport) : Nat :=
  report.results.length

def allPassed (report : ScenarioReport) : Bool :=
  report.results.all (·.passed)

private def line (result : ScenarioResult) : String :=
  let mark := if result.passed then "PASS" else "FAIL"
  s!"  [{mark}] {result.name} ({(Nanos.seconds result.duration).fixed 2}s) {result.detail}\n"

/-- The part that passed, in percent. -/
def passRate (report : ScenarioReport) : Double :=
  ((Double.ofNat report.passed).mul (Double.ofNat 100)).div (Double.ofNat report.total)

/-- The report as lines of text. -/
def describe (report : ScenarioReport) : String :=
  s!"Scenarios: {report.passed}/{report.total} passed\n" ++
    (if report.total = 0 then "" else s!"Pass rate: {report.passRate.fixed 1}%\n") ++
    String.join (report.results.map line)

end ScenarioReport

namespace Scenario

/-- Performs one scenario. -/
def perform (scenario : Scenario) (config : Config) : Session Performance := do
  let start ← Session.now
  let ending ← scenario.body config
  let finish ← Session.now
  return { name := scenario.name, verdict := Performance.verdictOf ending, start, finish }

/-- Performs scenarios one after the other. -/
def performAll (config : Config) : List Scenario → Session (List Performance)
  | [] => return []
  | scenario :: rest => do
    let first ← scenario.perform config
    let later ← performAll config rest
    return first :: later

/-- The report of scenarios performed one after the other. -/
def runAll (config : Config) (scenarios : List Scenario) : Session ScenarioReport := do
  let performances ← performAll config scenarios
  return ⟨performances.map (·.result)⟩

end Scenario

end ServiceProbe
