import ServiceProbe.Session.Service

/-!
# Invocations

An invocation is one unit of work for a pool of workers. It may break off already while it is built;
otherwise it runs once it has a worker. `Spell` is the run of one invocation: when it got a worker, when
it ended and how. An invocation that vanishes never reports; for every other one `Spell.reported?` is
the outcome it reports.
-/

namespace ServiceProbe

/-- How an invocation ends. -/
inductive InvocationEnd where
  | returned (result : Except Error Outcome)
  | crashed (text : Option String)
  /-- Its task dies without a report. -/
  | vanished

namespace InvocationEnd

/-- The end of an invocation whose work is a procedure. -/
def ofEnding : Ending (Except Error Outcome) → InvocationEnd
  | .returned result => returned result
  | .crashed text => crashed text

end InvocationEnd

/-- What an invocation does with its worker. -/
structure Work where
  finish : Nanos
  ending : InvocationEnd
  trace : List Step := []

/-- One unit of work for a pool, against a service with states in `σ`. -/
inductive Invocation (σ : Type) where
  /-- It breaks off while it is built. -/
  | unbuilt (text : Option String)
  /-- It runs from the instant at which it gets a worker, and from the state then. -/
  | built (work : Nanos → σ → Work × σ)

/-- What a procedure for an invocation gives, or the text with which it broke off while it was made. -/
inductive Job where
  | unbuilt (text : Option String)
  | built (procedure : Procedure (Except Error Outcome))

namespace Job

variable {σ τ : Type}

/-- What a run of its procedure says about an invocation. -/
def work (run : Run σ (Except Error Outcome)) : Work :=
  ⟨run.finish, InvocationEnd.ofEnding run.ending, run.trace⟩

/-- The invocation that runs a job against a service all invocations share. The service meets the
invocations one after the other, by index; that is the order of their instants wherever its answers to
one of them do not depend on the requests of another. -/
def shared (service : Service σ) : Job → Invocation σ
  | unbuilt text => .unbuilt text
  | built procedure =>
    .built fun start state =>
      let run := procedure.run service start state
      (work run, run.state)

/-- The invocation that runs a job against a service of its own, from a state of its own. -/
def alone (service : Service τ) (initial : τ) : Job → Invocation Unit
  | unbuilt text => .unbuilt text
  | built procedure =>
    .built fun start state => (work (procedure.run service start initial), state)

end Job

/-- The text for a break-off that left none. -/
def unknownCrash : String := "unknown panic payload"

/-- The run of one invocation. -/
structure Spell where
  index : Nat
  /-- When it got a worker, if it needed one. -/
  start : Option Nanos
  finish : Nanos
  ending : InvocationEnd
  trace : List Step := []

namespace Spell

/-- The time since it got its worker. -/
def elapsed (spell : Spell) : Nanos :=
  match spell.start with
  | some start => spell.finish - start
  | none => 0

/-- The outcome the invocation reports, if it does. -/
def reported? (spell : Spell) : Option Outcome :=
  match spell.ending with
  | .returned (.ok outcome) => some outcome
  | .returned (.error e) => some (.transportError e.message spell.elapsed)
  | .crashed text =>
    some (.transportError s!"invocation panicked: {text.getD unknownCrash}" spell.elapsed)
  | .vanished => none

/-- The outcome of an invocation that did not report. -/
def missing : Outcome :=
  .transportError "invocation did not report" 0

/-- The outcome that stands for the invocation. -/
def outcome (spell : Spell) : Outcome :=
  spell.reported?.getD missing

end Spell

end ServiceProbe
