import ServiceProbe.Task.Endpoint
import ServiceProbe.Task.Outcome

/-!
# Log events

Two events are structured: one when the polling of a task ends, one when an invocation of a load test
ends. Their fields are what a reader of the log relies on.
-/

namespace ServiceProbe

/-- How much an event matters. -/
inductive Level where
  | info | warn
deriving DecidableEq

def Level.name : Level → String
  | info => "INFO"
  | warn => "WARN"

/-- The end of an operation on a task. -/
structure TaskOperation where
  operation : String
  taskId : String
  endpoint : Endpoint
  status : String
  details : Option String
  elapsedMillis : Nat
deriving DecidableEq

/-- A structured log event. -/
inductive Event where
  | taskOperation (operation : TaskOperation)
  | invocationOutcome (index : Nat) (outcome : Outcome)

namespace Event

def name : Event → String
  | taskOperation _ => "TASK_OPERATION"
  | invocationOutcome _ _ => "INVOCATION_OUTCOME"

/-- Only the end of an invocation that did not succeed is a warning. -/
def level : Event → Level
  | taskOperation _ => .info
  | invocationOutcome _ outcome => if outcome.isSuccess then .info else .warn

/-- The text that goes with an event, if it has one. -/
def detail? : Event → Option String
  | taskOperation operation => operation.details
  | invocationOutcome _ outcome => if outcome.isSuccess then none else some outcome.describe

end Event

end ServiceProbe
