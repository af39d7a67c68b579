import ServiceProbe.Session.Program

/-!
# Where a run leads

A service `Moves` along a preorder of its states if each of its answers does. What is run against it then ends in
a state further on, however many requests it makes and whatever comes of them.

* `Procedure.moves_run` — the run of a procedure;
* `Pool.moves_run` — the jobs of a pool;
* `Session.moves_run` — the play of a session.
-/

namespace ServiceProbe

variable {σ α : Type}

/-- Each answer of a service leads on along a preorder of its states. -/
structure Service.Moves (service : Service σ) (onward : σ → σ → Prop) : Prop where
  refl : ∀ state, onward state state
  trans : ∀ {first second third}, onward first second → onward second third → onward first third
  submit : ∀ state credential endpoint payload, onward state (service.submit state credential endpoint payload).2
  check : ∀ state endpoint id, onward state (service.check state endpoint id).2
  cancel : ∀ state endpoint id, onward state (service.cancel state endpoint id).2
  health : ∀ state, onward state (service.health state).2

variable {service : Service σ} {onward : σ → σ → Prop} (moves : service.Moves onward)
include moves

/-- What follows an answer leads on from the state that the answer has left. -/
theorem Service.Moves.answered {β : Type} {next : Except Error β → Nanos → σ → Run σ α}
    (goesOn : ∀ result now state, onward state (next result now state).state) (reply : Reply β) (now : Nanos)
    (state : σ) : onward state (Procedure.answered reply now state next).state := by
  obtain ⟨answer, delay⟩ := reply
  cases answer with
  | returns result => exact goesOn result (now + delay) state
  | crashes text => exact moves.refl state

/-- A procedure leads on with each of its requests, also where the client breaks off on one. -/
theorem Procedure.moves_run (procedure : Procedure α) (now : Nanos) (state : σ) :
    onward state (procedure.run service now state).state := by
  induction procedure generalizing now state with
  | done result => exact moves.refl state
  | crash text => exact moves.refl state
  | clock next ih => exact ih now now state
  | sleep span next ih => exact ih (now + span) state
  | record event next ih => exact ih now state
  | submit credential endpoint payload next ih =>
    exact moves.trans (moves.submit state credential endpoint payload) (moves.answered ih _ now _)
  | check endpoint id next ih => exact moves.trans (moves.check state endpoint id) (moves.answered ih _ now _)
  | cancel endpoint id next ih => exact moves.trans (moves.cancel state endpoint id) (moves.answered ih _ now _)

namespace Pool

/-- Each job of a pool meets the service where the one before it left it. -/
theorem moves_scheduleFrom (workers : Nat) (begun now : Nanos) (finishes : List Nanos) (index : Nat) (state : σ)
    (jobs : List Job) :
    onward state (scheduleFrom workers begun now finishes index state (jobs.map (Job.shared service))).state := by
  induction jobs generalizing now finishes index state with
  | nil => exact moves.refl state
  | cons job rest ih =>
    cases job with
    | unbuilt text => exact ih now finishes (index + 1) state
    | built procedure => exact moves.trans (procedure.moves_run moves _ state) (ih _ _ (index + 1) _)

theorem moves_run (requested : Nat) (begun : Nanos) (state : σ) (jobs : List Job) :
    onward state (run requested begun state (jobs.map (Job.shared service))).state :=
  moves_scheduleFrom moves (workers requested) begun begun [] 0 state jobs

end Pool

/-- A batch leads on with its jobs, and stays where it has no channel. -/
theorem Session.moves_runBatch (workers count : Nat) (job : Nat → Job) (now : Nanos) (state : σ) :
    onward state (runBatch service workers count job now state).state := by
  by_cases channel : Pool.HasChannel workers count
  · rw [runBatch_of_hasChannel channel]
    exact Pool.moves_run moves workers now state _
  · rw [runBatch_of_not_hasChannel channel]
    exact moves.refl state

/-- A session leads on with all that it does. -/
theorem Session.moves_run (session : Session α) (now : Nanos) (state : σ) :
    onward state (session.run service now state).state := by
  induction session generalizing now state with
  | done result => exact moves.refl state
  | clock next ih => exact ih now now state
  | print text next ih => exact ih now state
  | health next ih => exact moves.trans (moves.health state) (ih _ now _)
  | perform procedure next ih => exact moves.trans (procedure.moves_run moves now state) (ih _ _ _)
  | batch workers count job next ih =>
    exact moves.trans (moves_runBatch moves workers count job now state) (ih _ _ _)

end ServiceProbe
