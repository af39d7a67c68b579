import ServiceProbe.Task.Snapshot

/-!
# How a task ended

Every submitted task ends in exactly one outcome, and each carries the time since the submission. Times
are whole nanoseconds; `milliseconds` is that time as a double.
-/

namespace ServiceProbe

open Number (Double)

/-- A span of time in nanoseconds. -/
abbrev Nanos := Nat

namespace Nanos

def perMilli : Nat := 1000000

def perSecond : Nat := 1000000000

def ofMillis (millis : Nat) : Nanos := millis * perMilli

/-- The whole milliseconds of a span. -/
def wholeMillis (span : Nanos) : Nat := span / perMilli

/-- The span in milliseconds. -/
def milliseconds (span : Nanos) : Double :=
  (Double.ofNat span).div (Double.ofNat perMilli)

/-- The span in seconds: the whole seconds and the fraction are added. -/
def seconds (span : Nanos) : Double :=
  (Double.ofNat (span / perSecond)).add
    ((Double.ofNat (span % perSecond)).div (Double.ofNat perSecond))

end Nanos

/-- The kinds of outcomes. -/
inductive OutcomeKind where
  | success | failure | cancelled | timedOut | transportError
deriving DecidableEq, Inhabited

namespace OutcomeKind

def all : List OutcomeKind :=
  [success, failure, cancelled, timedOut, transportError]

/-- The name of a kind in JSON. -/
def jsonName : OutcomeKind → String
  | success => "success"
  | failure => "failure"
  | cancelled => "cancelled"
  | timedOut => "timed_out"
  | transportError => "transport_error"

/-- The name of a kind in log events. -/
def eventName : OutcomeKind → String
  | success => "Success"
  | failure => "Failure"
  | cancelled => "Cancelled"
  | timedOut => "TimedOut"
  | transportError => "TransportError"

def encode (kind : OutcomeKind) : Json :=
  .string kind.jsonName

def decode : Decoder OutcomeKind :=
  Decoder.oneOf (all.map fun kind => (kind.jsonName, kind))

end OutcomeKind

/-- How a task ended, and when, counted from its submission. -/
inductive Outcome where
  /-- The service reported it completed. -/
  | success (snapshot : Snapshot) (latency : Nanos)
  /-- The service reported a failure, gave up, or reported something unknown. -/
  | failure (reason : String) (latency : Nanos)
  /-- The service confirmed a cancellation. -/
  | cancelled (snapshot : Snapshot) (latency : Nanos)
  /-- The attempts or the time ran out before the end was seen. -/
  | timedOut (attempts : Nat) (latency : Nanos)
  /-- The service could not be talked to, or the invocation broke. -/
  | transportError (reason : String) (latency : Nanos)

namespace Outcome

def kind : Outcome → OutcomeKind
  | success _ _ => .success
  | failure _ _ => .failure
  | cancelled _ _ => .cancelled
  | timedOut _ _ => .timedOut
  | transportError _ _ => .transportError

def latency : Outcome → Nanos
  | success _ latency => latency
  | failure _ latency => latency
  | cancelled _ latency => latency
  | timedOut _ latency => latency
  | transportError _ latency => latency

def isSuccess (outcome : Outcome) : Bool :=
  outcome.kind = .success

def snapshot? : Outcome → Option Snapshot
  | success snapshot _ => some snapshot
  | cancelled snapshot _ => some snapshot
  | _ => none

/-- Why the outcome is a failure or an error. -/
def reason? : Outcome → Option String
  | failure reason _ => some reason
  | transportError reason _ => some reason
  | _ => none

/-- The outcome in one line, with the time in whole milliseconds, rounded. -/
def describe (outcome : Outcome) : String :=
  let time := (Nanos.milliseconds outcome.latency).fixed 0
  match outcome with
  | success _ _ => s!"success in {time}ms"
  | failure reason _ => s!"failure after {time}ms: {reason}"
  | cancelled _ _ => s!"cancelled after {time}ms"
  | timedOut attempts _ => s!"timed out after {attempts} attempts ({time}ms)"
  | transportError reason _ => s!"transport error after {time}ms: {reason}"

end Outcome

end ServiceProbe
