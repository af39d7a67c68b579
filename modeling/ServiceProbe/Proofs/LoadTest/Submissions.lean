import ServiceProbe.LoadTest
import ServiceProbe.Proofs.Session.Requests
import ServiceProbe.Proofs.Task.Course

/-!
# What a load test submits

A tally is kept of the submissions that a service has met (`Service.Tallies`). Each invocation of a load test makes
one and then polls what came of it, which makes none. So what a pool adds to the tally is what its indices add,
whatever the service answers and however the invocations are spread over the workers.

* `LoadPlan.run_invocation` — the run of an invocation, by the answer to its submission;
* `LoadPlan.tally_invocation` — what it adds to a tally;
* `LoadPlan.tally_launch` — all invocations of a load test.
-/

namespace ServiceProbe

/-! ### The run of an invocation -/

/-- What the log says behind a poll: its outcome, if it returned one. -/
def Run.log {σ : Type} (index : Nat) (polled : Run σ Outcome) : List Step :=
  match polled.ending with
  | .returned outcome => [.event (.invocationOutcome index outcome) polled.finish]
  | .crashed _ => []

/-- The run of an invocation from that of its poll. -/
def Run.logged {σ : Type} (index : Nat) (polled : Run σ Outcome) : Run σ (Except Error Outcome) :=
  ⟨polled.ending.map .ok, polled.finish, polled.state, polled.trace ++ polled.log index⟩

/-- A poll whose outcome is logged and returned. -/
theorem Procedure.run_bind_logged {σ : Type} (service : Service σ) (poll : Procedure Outcome) (index : Nat)
    (now : Nanos) (state : σ) :
    (poll.bind fun outcome => (note (.invocationOutcome index outcome)).bind fun _ => done (.ok outcome)).run
      service now state = (poll.run service now state).logged index := by
  rw [run_bind]
  obtain ⟨ending, finish, left, trace⟩ := poll.run service now state
  cases ending with
  | returned outcome => rfl
  | crashed text => exact congrArg (Run.mk _ finish left) (List.append_nil trace).symm

/-- An invocation submits its task, and polls it if it is accepted. -/
theorem LoadPlan.run_invocation {τ : Type} (plan : LoadPlan) (service : Service τ) (state : τ) (index : Nat)
    (payload : Payload) (now : Nanos) :
    (plan.invocation index payload).run service now state =
      let submission := service.submit state .configured plan.endpoint payload
      Run.after (.call (.submit plan.endpoint payload) now)
        (match submission.1.answer with
        | .returns (.ok id) =>
          ((plan.polling.poll ⟨id, plan.endpoint, now⟩).run service (now + submission.1.delay) submission.2).logged
            index
        | .returns (.error e) => ⟨.returned (.error e), now + submission.1.delay, submission.2, []⟩
        | .crashes text => ⟨.crashed (some text), now + submission.1.delay, submission.2, []⟩) := by
  refine (Procedure.run_submitTask_bind service .configured plan.endpoint payload _ now state).trans ?_
  dsimp only
  cases (service.submit state .configured plan.endpoint payload).1.answer with
  | crashes text => rfl
  | returns result =>
    cases result with
    | error e => rfl
    | ok id =>
      exact congrArg (Run.after _)
        (Procedure.run_bind_logged service (plan.polling.poll ⟨id, plan.endpoint, now⟩) _ _ _)

/-! ### The tally -/

variable {σ ρ : Type}

/-- A tally of the submissions: what is counted for each of them, and nothing for a status request. -/
structure Service.Tallies (service : Service σ) (tally : σ → List ρ) (counted? : Endpoint → Payload → Option ρ) :
    Prop where
  submit : ∀ state endpoint payload, tally (service.submit state .configured endpoint payload).2 =
    tally state ++ (counted? endpoint payload).toList
  check : ∀ state endpoint id, tally (service.check state endpoint id).2 = tally state

variable {service : Service σ} {tally : σ → List ρ} {counted? : Endpoint → Payload → Option ρ}
  (tallies : service.Tallies tally counted?)

include tallies

theorem Service.Tallies.afterChecks (handle : Handle) (state : σ) (made : Nat) :
    tally (service.afterChecks handle state made) = tally state := by
  induction made with
  | zero => rfl
  | succ made ih => exact (tallies.check _ handle.endpoint handle.id).trans ih

/-- A poll submits nothing. -/
theorem Polling.tally_poll (polling : Polling) (handle : Handle) (now : Nanos) (state : σ) :
    tally ((polling.poll handle).run service now state).state = tally state := by
  obtain ⟨last, stop, -, ran⟩ := exists_run_poll service polling handle now state
  rw [ran, Course.state_run]
  exact tallies.afterChecks handle state _

namespace LoadPlan

variable (plan : LoadPlan)

/-- An invocation makes its submission, whether or not that is accepted. -/
theorem tally_invocation (index : Nat) (payload : Payload) (now : Nanos) (state : σ) :
    tally ((plan.invocation index payload).run service now state).state =
      tally state ++ (counted? plan.endpoint payload).toList := by
  have submitted := tallies.submit state plan.endpoint payload
  rw [run_invocation, ← submitted]
  dsimp only
  -- whatever follows the submission submits nothing
  cases (service.submit state .configured plan.endpoint payload).1.answer with
  | crashes text => rfl
  | returns result =>
    cases result with
    | error e => rfl
    | ok id => exact plan.polling.tally_poll tallies ⟨id, plan.endpoint, now⟩ _ _

variable (payload : Nat → Payload)

/-- The jobs of a pool make one submission for each of their indices. -/
theorem tally_scheduleFrom (workers : Nat) (begun now : Nanos) (finishes : List Nanos) (first : Nat) (state : σ)
    (indices : List Nat) :
    tally (Pool.scheduleFrom workers begun now finishes first state
        ((indices.map (plan.job fun index => .ok (payload index))).map (Job.shared service))).state =
      tally state ++ indices.filterMap fun index => counted? plan.endpoint (payload index) := by
  induction indices generalizing now finishes first state with
  | nil => exact (List.append_nil _).symm
  | cons index rest ih =>
    refine (ih _ _ (first + 1) _).trans ?_
    rw [plan.tally_invocation tallies, List.append_assoc, List.filterMap_cons]
    cases counted? plan.endpoint (payload index) <;> rfl

/-- **The submissions of a load test.** -/
theorem tally_launch {requested : Nat} {begun : Nanos} {state : σ} {pool : PoolRun σ}
    (returns : Pool.launch requested begun state plan.count
      (fun index => (plan.job (fun index => .ok (payload index)) index).shared service) = .returned pool) :
    tally pool.state =
      tally state ++ (List.range plan.count).filterMap fun index => counted? plan.endpoint (payload index) := by
  rw [← (Pool.launch_eq_returned_iff.1 returns).2, Session.map_shared]
  exact plan.tally_scheduleFrom tallies payload (Pool.workers requested) begun begun [] 0 state _

end LoadPlan

end ServiceProbe
