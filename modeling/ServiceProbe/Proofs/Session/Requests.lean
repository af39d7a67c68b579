import ServiceProbe.Proofs.Session.Later
import ServiceProbe.Session.Program

/-!
# Single requests

A procedure that is no more than one request ends as the service answers it: with the answer, after its delay,
in the state that the service is left in, and with that request as its only step. What is made of its result, and a
session that performs nothing else, changes nothing about the run (`Procedure.run_bind_done`,
`Session.run_attempt`).
-/

namespace ServiceProbe

/-- How a request that is answered so ends for the one who makes it. -/
def Answer.ending {α : Type} : Answer α → Ending (Except Error α)
  | returns result => .returned result
  | crashes text => .crashed (some text)

/-- The run with another result. -/
def Run.map {σ α β : Type} (f : α → β) (run : Run σ α) : Run σ β :=
  ⟨run.ending.map f, run.finish, run.state, run.trace⟩

namespace Procedure

variable {σ α β : Type} (service : Service σ)

/-- A submission keeps the instant at which it is made. -/
theorem run_submitTask (credential : Credential) (endpoint : Endpoint) (payload : Payload) (now : Nanos)
    (state : σ) :
    (submitTask endpoint payload credential).run service now state =
      { ending := (service.submit state credential endpoint payload).1.answer.ending.map
          (Except.map (Handle.mk · endpoint now))
        finish := now + (service.submit state credential endpoint payload).1.delay
        state := (service.submit state credential endpoint payload).2
        trace := [.call (.submit endpoint payload) now] } := by
  rw [submitTask, run]
  cases answer : (service.submit state credential endpoint payload).1.answer with
  | returns result =>
    rw [run_submit_returns answer]
    cases result <;> rfl
  | crashes text =>
    rw [run_submit_crashes answer]
    rfl

theorem run_checkTask (handle : Handle) (now : Nanos) (state : σ) :
    (checkTask handle).run service now state =
      { ending := (service.check state handle.endpoint handle.id).1.answer.ending
        finish := now + (service.check state handle.endpoint handle.id).1.delay
        state := (service.check state handle.endpoint handle.id).2
        trace := [.call (.check handle.endpoint handle.id) now] } := by
  rw [checkTask]
  cases answer : (service.check state handle.endpoint handle.id).1.answer with
  | returns result =>
    rw [run_check_returns answer]
    rfl
  | crashes text =>
    rw [run_check_crashes answer]
    rfl

theorem run_cancelTask (handle : Handle) (now : Nanos) (state : σ) :
    (cancelTask handle).run service now state =
      { ending := (service.cancel state handle.endpoint handle.id).1.answer.ending
        finish := now + (service.cancel state handle.endpoint handle.id).1.delay
        state := (service.cancel state handle.endpoint handle.id).2
        trace := [.call (.cancel handle.endpoint handle.id) now] } := by
  rw [cancelTask]
  cases answer : (service.cancel state handle.endpoint handle.id).1.answer with
  | returns result =>
    rw [run_cancel_returns answer]
    rfl
  | crashes text =>
    rw [run_cancel_crashes answer]
    rfl

/-- What follows a submission runs from the instant of the reply, unless the client breaks off on it. -/
theorem run_submitTask_bind (credential : Credential) (endpoint : Endpoint) (payload : Payload)
    (f : Except Error Handle → Procedure β) (now : Nanos) (state : σ) :
    ((submitTask endpoint payload credential).bind f).run service now state =
      let submission := service.submit state credential endpoint payload
      Run.after (.call (.submit endpoint payload) now)
        (match submission.1.answer with
        | .returns result =>
          (f (result.map (Handle.mk · endpoint now))).run service (now + submission.1.delay) submission.2
        | .crashes text => ⟨.crashed (some text), now + submission.1.delay, submission.2, []⟩) := by
  rw [run_bind, run_submitTask]
  dsimp only
  cases (service.submit state credential endpoint payload).1.answer with
  | crashes text => rfl
  | returns result => rfl

/-- What follows a procedure that is one request runs from the instant of the reply, unless the client breaks off on
it. -/
theorem run_bind_answered {service : Service σ} {procedure : Procedure (Except Error α)} {answer : Answer α}
    {now finish : Nanos} {state left : σ} {request : Step}
    (run : procedure.run service now state = ⟨answer.ending, finish, left, [request]⟩)
    (f : Except Error α → Procedure β) :
    (procedure.bind f).run service now state =
      Run.after request
        (match answer with
        | .returns result => (f result).run service finish left
        | .crashes text => ⟨.crashed (some text), finish, left, []⟩) := by
  rw [run_bind, run]
  cases answer with
  | crashes text => rfl
  | returns result => rfl

/-- A procedure whose result is made into another one runs as it does. -/
theorem run_bind_done (procedure : Procedure α) (f : α → β) (now : Nanos) (state : σ) :
    (procedure.bind fun result => done (f result)).run service now state =
      (procedure.run service now state).map f := by
  rw [run_bind, continued, Run.map]
  split <;>
    next ending =>
      rw [ending]
      simp [run, Ending.map]

/-- A task that is submitted and, if it is accepted, polled: what is made of the refusal or of the outcome is the
result. -/
theorem run_submitTask_poll (polling : Polling) (endpoint : Endpoint) (payload : Payload) (refused : Error → β)
    (judged : Outcome → β) (now : Nanos) (state : σ) :
    ((submitTask endpoint payload).bind fun
      | .error e => done (refused e)
      | .ok handle => (polling.poll handle).bind fun outcome => done (judged outcome)).run service now state =
      let submission := service.submit state .configured endpoint payload
      Run.after (.call (.submit endpoint payload) now)
        (match submission.1.answer with
        | .returns (.ok id) =>
          ((polling.poll ⟨id, endpoint, now⟩).run service (now + submission.1.delay) submission.2).map judged
        | .returns (.error e) => ⟨.returned (refused e), now + submission.1.delay, submission.2, []⟩
        | .crashes text => ⟨.crashed (some text), now + submission.1.delay, submission.2, []⟩) := by
  rw [run_submitTask_bind]
  dsimp only
  cases (service.submit state .configured endpoint payload).1.answer with
  | crashes text => rfl
  | returns result =>
    cases result with
    | error e => rfl
    | ok id => exact congrArg (Run.after _) (run_bind_done service (polling.poll ⟨id, endpoint, now⟩) judged _ _)

end Procedure

/-- A session that is no more than one procedure is played as the procedure runs. -/
theorem Session.run_attempt {σ α : Type} (service : Service σ) (procedure : Procedure α) (now : Nanos)
    (state : σ) :
    (attempt procedure).run service now state =
      { result := (procedure.run service now state).ending
        finish := (procedure.run service now state).finish
        state := (procedure.run service now state).state
        trace := (procedure.run service now state).trace } := by
  rw [attempt, run, run, Played.afterSteps, List.append_nil]

end ServiceProbe
