import ServiceProbe.Session.Procedure

/-!
# Running procedures against a service

A `Service` is a state machine: each request is answered, after a delay, from the state and changes it.
`Procedure.run` plays a procedure against a service on a clock that moves only while the procedure
sleeps or waits for an answer. It gives how and when the procedure ended, the state it left, and the
trace of its requests and events with their instants; a request bears the instant at which it is made.

Main statement: running two procedures one after the other runs the second where the first ended
(`run_bind`).
-/

namespace ServiceProbe

/-- How a request ends for the one who makes it. -/
inductive Answer (α : Type) where
  | returns (result : Except Error α)
  /-- The client breaks off. -/
  | crashes (text : String)

/-- An answer and how long it takes. -/
structure Reply (α : Type) where
  answer : Answer α
  delay : Nanos := 0

/-- A service, with what its answers depend on in a state. -/
structure Service (σ : Type) where
  submit : σ → Credential → Endpoint → Payload → Reply String × σ
  check : σ → Endpoint → String → Reply Snapshot × σ
  cancel : σ → Endpoint → String → Reply Bool × σ
  /-- The service says that it is well. -/
  health : σ → Bool × σ

/-- A request of the service. -/
inductive Call where
  | submit (endpoint : Endpoint) (payload : Payload)
  | check (endpoint : Endpoint) (id : String)
  | cancel (endpoint : Endpoint) (id : String)

/-- What happened, and when. -/
inductive Step where
  | call (request : Call) (instant : Nanos)
  | event (event : Event) (instant : Nanos)

namespace Step

/-- The request of a step, with its instant. -/
def call? : Step → Option (Call × Nanos)
  | .call request instant => some (request, instant)
  | .event _ _ => none

def event? : Step → Option Event
  | .call _ _ => none
  | .event noted _ => some noted

def instant : Step → Nanos
  | .call _ instant => instant
  | .event _ instant => instant

/-- The step asks for the status of a task. -/
def isCheck : Step → Bool
  | .call (.check _ _) _ => true
  | _ => false

end Step

/-- How a procedure ended. -/
inductive Ending (α : Type) where
  | returned (result : α)
  | crashed (text : Option String)

/-- The run of a procedure. -/
structure Run (σ α : Type) where
  ending : Ending α
  finish : Nanos
  state : σ
  trace : List Step := []

namespace Run

variable {σ α : Type}

/-- The run with a step before it. -/
def after (step : Step) (run : Run σ α) : Run σ α :=
  { run with trace := step :: run.trace }

end Run

namespace Procedure

variable {σ α β : Type}

/-- Goes on with the answer to a request when it is there. -/
def answered (reply : Reply β) (now : Nanos) (state : σ)
    (next : Except Error β → Nanos → σ → Run σ α) : Run σ α :=
  match reply.answer with
  | .returns result => next result (now + reply.delay) state
  | .crashes text => ⟨.crashed (some text), now + reply.delay, state, []⟩

/-- The run of a procedure from an instant and a state of the service on. A pause ends exactly when it should, and what
is done between pauses and answers takes no time; a clock that rounds pauses up, or a busy machine, makes every later
instant later. -/
def run (service : Service σ) : Procedure α → Nanos → σ → Run σ α
  | done result, now, state => ⟨.returned result, now, state, []⟩
  | crash text, now, state => ⟨.crashed text, now, state, []⟩
  | clock next, now, state => run service (next now) now state
  | sleep span next, now, state => run service next (now + span) state
  | submit credential endpoint payload next, now, state =>
    let (reply, state) := service.submit state credential endpoint payload
    (answered reply now state fun result => run service (next result)).after
      (.call (.submit endpoint payload) now)
  | check endpoint id next, now, state =>
    let (reply, state) := service.check state endpoint id
    (answered reply now state fun result => run service (next result)).after
      (.call (.check endpoint id) now)
  | cancel endpoint id next, now, state =>
    let (reply, state) := service.cancel state endpoint id
    (answered reply now state fun result => run service (next result)).after
      (.call (.cancel endpoint id) now)
  | record event next, now, state =>
    (run service next now state).after (.event event now)

section requests

variable {service : Service σ} {now : Nanos} {state : σ} {endpoint : Endpoint}

/-- A submission that is answered. -/
theorem run_submit_returns {credential : Credential} {payload : Payload}
    {next : Except Error String → Procedure α} {result : Except Error String}
    (answer : (service.submit state credential endpoint payload).1.answer = .returns result) :
    (submit credential endpoint payload next).run service now state =
      ((next result).run service (now + (service.submit state credential endpoint payload).1.delay)
        (service.submit state credential endpoint payload).2).after
          (.call (.submit endpoint payload) now) := by
  simp only [run, answered, answer]

/-- A submission on which the client breaks off. -/
theorem run_submit_crashes {credential : Credential} {payload : Payload}
    {next : Except Error String → Procedure α} {text : String}
    (answer : (service.submit state credential endpoint payload).1.answer = .crashes text) :
    (submit credential endpoint payload next).run service now state =
      Run.after (.call (.submit endpoint payload) now)
        ⟨.crashed (some text), now + (service.submit state credential endpoint payload).1.delay,
          (service.submit state credential endpoint payload).2, []⟩ := by
  simp only [run, answered, answer]

/-- A status request that is answered. -/
theorem run_check_returns {id : String} {next : Except Error Snapshot → Procedure α}
    {result : Except Error Snapshot}
    (answer : (service.check state endpoint id).1.answer = .returns result) :
    (check endpoint id next).run service now state =
      ((next result).run service (now + (service.check state endpoint id).1.delay)
        (service.check state endpoint id).2).after (.call (.check endpoint id) now) := by
  simp only [run, answered, answer]

/-- A status request on which the client breaks off. -/
theorem run_check_crashes {id : String} {next : Except Error Snapshot → Procedure α} {text : String}
    (answer : (service.check state endpoint id).1.answer = .crashes text) :
    (check endpoint id next).run service now state =
      Run.after (.call (.check endpoint id) now)
        ⟨.crashed (some text), now + (service.check state endpoint id).1.delay,
          (service.check state endpoint id).2, []⟩ := by
  simp only [run, answered, answer]

/-- A cancellation request that is answered. -/
theorem run_cancel_returns {id : String} {next : Except Error Bool → Procedure α}
    {result : Except Error Bool} (answer : (service.cancel state endpoint id).1.answer = .returns result) :
    (cancel endpoint id next).run service now state =
      ((next result).run service (now + (service.cancel state endpoint id).1.delay)
        (service.cancel state endpoint id).2).after (.call (.cancel endpoint id) now) := by
  simp only [run, answered, answer]

/-- A cancellation request on which the client breaks off. -/
theorem run_cancel_crashes {id : String} {next : Except Error Bool → Procedure α} {text : String}
    (answer : (service.cancel state endpoint id).1.answer = .crashes text) :
    (cancel endpoint id next).run service now state =
      Run.after (.call (.cancel endpoint id) now)
        ⟨.crashed (some text), now + (service.cancel state endpoint id).1.delay,
          (service.cancel state endpoint id).2, []⟩ := by
  simp only [run, answered, answer]

end requests

/-- The run of `f` after a run that returned; a run that broke off stays as it is. -/
def continued (service : Service σ) (f : α → Procedure β) (first : Run σ α) : Run σ β :=
  match first.ending with
  | .returned result =>
    let second := (f result).run service first.finish first.state
    { second with trace := first.trace ++ second.trace }
  | .crashed text => ⟨.crashed text, first.finish, first.state, first.trace⟩

private theorem continued_after (service : Service σ) (f : α → Procedure β) (step : Step)
    (first : Run σ α) :
    continued service f (first.after step) = (continued service f first).after step := by
  obtain ⟨ending, finish, state, trace⟩ := first
  cases ending <;> rfl

theorem continued_answered (service : Service σ) (f : α → Procedure β) {γ : Type}
    (reply : Reply γ) (now : Nanos) (state : σ) (next : Except Error γ → Nanos → σ → Run σ α) :
    continued service f (answered reply now state next) =
      answered reply now state fun result now state => continued service f (next result now state) := by
  obtain ⟨answer, delay⟩ := reply
  cases answer <;> rfl

/-- **Running in sequence.** The second procedure runs where the first one ended. -/
theorem run_bind (service : Service σ) (procedure : Procedure α) (f : α → Procedure β)
    (now : Nanos) (state : σ) :
    (procedure.bind f).run service now state =
      continued service f (procedure.run service now state) := by
  induction procedure generalizing now state with
  | done result => simp [bind, run, continued]
  | crash text => rfl
  | clock next ih => exact ih now now state
  | sleep span next ih => exact ih (now + span) state
  | record event next ih => simp only [bind, run, ih, continued_after]
  | submit credential endpoint payload next ih =>
    simp only [bind, run, continued_after, continued_answered]
    exact congrArg _ (congrArg _ (funext fun result => funext fun t => funext fun s => ih result t s))
  | check endpoint id next ih =>
    simp only [bind, run, continued_after, continued_answered]
    exact congrArg _ (congrArg _ (funext fun result => funext fun t => funext fun s => ih result t s))
  | cancel endpoint id next ih =>
    simp only [bind, run, continued_after, continued_answered]
    exact congrArg _ (congrArg _ (funext fun result => funext fun t => funext fun s => ih result t s))

/-- The end of two procedures one after the other, the first of which returns. -/
theorem ending_run_bind {service : Service σ} {procedure : Procedure α} {f : α → Procedure β}
    {now : Nanos} {state : σ} {result : α}
    (returns : (procedure.run service now state).ending = .returned result) :
    ((procedure.bind f).run service now state).ending =
      ((f result).run service (procedure.run service now state).finish
        (procedure.run service now state).state).ending := by
  rw [run_bind, continued, returns]

end Procedure

end ServiceProbe
