import ServiceProbe.Session.Procedure

/-!
# Polling a task to its end

`Polling.poll` asks for the status of a task, again and again, until an answer is decisive or a budget
runs out. Each attempt starts with a pause of one interval. `Decision.of?` says which answers are
decisive and what they mean; every other answer costs one attempt and nothing else. Besides the
attempts there may be a limit on the time since the submission: no pause is begun that would end after
it. Each poll that ends records one event, which states the end that the outcome bears.
-/

namespace ServiceProbe

/-- How a task is polled. -/
structure Polling where
  interval : Nanos := Nanos.ofMillis 2000
  maxAttempts : Nat := 30
  /-- The longest time since the submission at which a request is made. -/
  maxWait : Option Nanos := none
deriving DecidableEq

/-- What a decisive answer says about a task. -/
structure Decision where
  /-- The end as the event names it. -/
  word : String
  details : Option String := none
  /-- The outcome, given the time since the submission. -/
  outcome : Nanos → Outcome

namespace Decision

/-- What a snapshot says, if the task has come to an end. -/
def ofSnapshot? (snapshot : Snapshot) : Option Decision :=
  match snapshot.status with
  | .completed => some { word := "completed", outcome := .success snapshot }
  | .failed => some (failure "failed" "task failed without an error message")
  | .cancelled => some { word := "cancelled", outcome := .cancelled snapshot }
  | .timedOut => some (failure "remote_timeout" "task timed out on the service")
  | .pending => none
  | .running => none
  | .cancelling => none
where
  failure (word defaultReason : String) : Decision :=
    let reason := snapshot.error.getD defaultReason
    { word, details := some reason, outcome := .failure reason }

/-- What an error says: a refused credential and an error that no further attempt can mend break the
poll off, an unknown status word is a failure of the task, and any other error says nothing. -/
def ofError? (e : Error) : Option Decision :=
  let reason := e.message
  if e.isAuthFailure then
    some { word := "auth_failed", details := some reason, outcome := .transportError reason }
  else
    match e with
    | .unknownStatus _ =>
      some { word := "unknown_status", details := some reason, outcome := .failure reason }
    | _ =>
      if e.isRecoverable then none
      else some { word := "unrecoverable", details := some reason, outcome := .transportError reason }

/-- What the answer to a status request says. -/
def of? : Except Error Snapshot → Option Decision
  | .ok snapshot => ofSnapshot? snapshot
  | .error e => ofError? e

/-- Of the faults over HTTP only those decide that no further attempt can mend. -/
theorem of?_http (fault : HttpFault) :
    of? (.error (.http fault)) =
      if (Error.http fault).isRecoverable then none
      else
        some
          { word := "unrecoverable"
            details := some (Error.http fault).message
            outcome := .transportError (Error.http fault).message } :=
  rfl

end Decision

namespace Polling

/-- The event at the end of a poll. -/
def event (handle : Handle) (word : String) (details : Option String) (elapsed : Nanos) : Event :=
  .taskOperation
    { operation := "poll"
      taskId := handle.id
      endpoint := handle.endpoint
      status := word
      details
      elapsedMillis := elapsed.wholeMillis }

/-- A pause begun at this time since the submission would end after the limit. The end of the pause is taken to fit
into a span of time; the program breaks off where it is beyond `Nanos.longest`. -/
def isExhausted (polling : Polling) (elapsed : Nanos) : Bool :=
  match polling.maxWait with
  | some limit => decide (limit < elapsed + polling.interval)
  | none => false

/-- Ends a poll: records the end and gives the outcome. -/
def finish (handle : Handle) (word : String) (details : Option String)
    (outcome : Nanos → Outcome) : Procedure Outcome := do
  let elapsed := (← Procedure.now) - handle.submitted
  Procedure.note (event handle word details elapsed)
  return outcome elapsed

/-- Ends a poll after attempts that decided nothing. -/
def giveUp (handle : Handle) (attempts : Nat) : Procedure Outcome :=
  finish handle "timed_out" (some s!"no terminal status after {attempts} attempts")
    (.timedOut attempts)

/-- Polls with so many attempts left after so many made. -/
def attempt (polling : Polling) (handle : Handle) (made : Nat) : Nat → Procedure Outcome
  | 0 => giveUp handle made
  | left + 1 => do
    let elapsed := (← Procedure.now) - handle.submitted
    if polling.isExhausted elapsed then giveUp handle made
    else
      Procedure.wait polling.interval
      match Decision.of? (← Procedure.checkTask handle) with
      -- the instant of the end is read again, since the answer may have taken time
      | some decision => finish handle decision.word decision.details decision.outcome
      | none => attempt polling handle (made + 1) left

/-- Polls a task to its end or to the end of the budget. -/
def poll (polling : Polling) (handle : Handle) : Procedure Outcome :=
  attempt polling handle 0 polling.maxAttempts

/-- Twice the budget, the attempts within 32 bits. -/
def doubled (polling : Polling) : Polling :=
  { polling with
    maxAttempts := min (2 * polling.maxAttempts) (UInt32.size - 1)
    maxWait := polling.maxWait.map (2 * ·) }

end Polling

end ServiceProbe
