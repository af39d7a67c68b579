import ServiceProbe.Session.Service
import ServiceProbe.Task.Polling

/-!
# The same run, later

The harness measures spans of time, so it should not matter when a procedure is run. `Procedure.Later` relates
two procedures of which the second does what the first does, but with every instant it reads on the clock,
and every instant in its result, a span later. Such procedures are related part by part (`Later.bind`), and
their runs are the same but for the instants:

* `Procedure.Later.run` — the second procedure, run a span later, ends a span later, in the same state and
  after the same steps;
* `Polling.later_poll` — a poll of a task that was submitted a span later is such a procedure, with the same
  outcome.
-/

namespace ServiceProbe

/-- The step, a span later. -/
def Step.later (span : Nanos) : Step → Step
  | .call request instant => .call request (instant + span)
  | .event noted instant => .event noted (instant + span)

/-- The handle of a task that was submitted a span later. -/
def Handle.later (span : Nanos) (handle : Handle) : Handle :=
  { handle with submitted := handle.submitted + span }

/-- The end with another result. -/
def Ending.map {α β : Type} (f : α → β) : Ending α → Ending β
  | .returned result => .returned (f result)
  | .crashed text => .crashed text

@[simp] theorem Ending.map_id {α : Type} (ending : Ending α) : ending.map id = ending := by
  cases ending <;> rfl

/-- The run, a span later, with another result. -/
def Run.later {σ α β : Type} (span : Nanos) (f : α → β) (run : Run σ α) : Run σ β :=
  ⟨run.ending.map f, run.finish + span, run.state, run.trace.map (Step.later span)⟩

namespace Procedure

variable {α α' β β' : Type}

/-- The second procedure does what the first does, a span later, and gives the result that `f` makes of the
result of the first. -/
inductive Later (span : Nanos) (f : α → β) : Procedure α → Procedure β → Prop where
  | done (result : α) : Later span f (done result) (done (f result))
  | crash (text : Option String) : Later span f (crash text) (crash text)
  | clock {next : Nanos → Procedure α} {next' : Nanos → Procedure β}
    (h : ∀ now, Later span f (next now) (next' (now + span))) : Later span f (clock next) (clock next')
  | sleep (length : Nanos) {next : Procedure α} {next' : Procedure β} (h : Later span f next next') :
    Later span f (sleep length next) (sleep length next')
  | submit (credential : Credential) (endpoint : Endpoint) (payload : Payload)
    {next : Except Error String → Procedure α} {next' : Except Error String → Procedure β}
    (h : ∀ answer, Later span f (next answer) (next' answer)) :
    Later span f (submit credential endpoint payload next) (submit credential endpoint payload next')
  | check (endpoint : Endpoint) (id : String) {next : Except Error Snapshot → Procedure α}
    {next' : Except Error Snapshot → Procedure β} (h : ∀ answer, Later span f (next answer) (next' answer)) :
    Later span f (check endpoint id next) (check endpoint id next')
  | cancel (endpoint : Endpoint) (id : String) {next : Except Error Bool → Procedure α}
    {next' : Except Error Bool → Procedure β} (h : ∀ answer, Later span f (next answer) (next' answer)) :
    Later span f (cancel endpoint id next) (cancel endpoint id next')
  | record (event : Event) {next : Procedure α} {next' : Procedure β} (h : Later span f next next') :
    Later span f (record event next) (record event next')

namespace Later

variable {span : Nanos} {f : α → β} {g : α' → β'} {procedure : Procedure α} {procedure' : Procedure β}

/-- Related procedures are followed by related procedures. -/
theorem bind {next : α → Procedure α'} {next' : β → Procedure β'} (h : Later span f procedure procedure')
    (rest : ∀ result, Later span g (next result) (next' (f result))) :
    Later span g (procedure.bind next) (procedure'.bind next') := by
  induction h with
  | done result => exact rest result
  | crash text => exact .crash text
  | clock _ ih => exact .clock ih
  | sleep length _ ih => exact .sleep length ih
  | submit credential endpoint payload _ ih => exact .submit credential endpoint payload ih
  | check endpoint id _ ih => exact .check endpoint id ih
  | cancel endpoint id _ ih => exact .cancel endpoint id ih
  | record event _ ih => exact .record event ih

/-- A decision that both procedures make the same way. -/
theorem ite {decided : Prop} [Decidable decided] {other : Procedure α} {other' : Procedure β}
    (h : Later span f procedure procedure') (h' : Later span f other other') :
    Later span f (if decided then procedure else other) (if decided then procedure' else other') := by
  split
  · exact h
  · exact h'

variable {σ : Type}

/-- A step before two runs, later before the later one. -/
theorem after_later (step : Step) (run : Run σ α) :
    (run.after step).later span f = (run.later span f).after (step.later span) := rfl

/-- What follows an answer is later where the answer is. -/
theorem answered_later {γ : Type} {next : Except Error γ → Nanos → σ → Run σ α}
    {next' : Except Error γ → Nanos → σ → Run σ β}
    (goesOn : ∀ result now state, next' result (now + span) state = (next result now state).later span f)
    (reply : Reply γ) (now : Nanos) (state : σ) :
    answered reply (now + span) state next' = (answered reply now state next).later span f := by
  obtain ⟨answer, delay⟩ := reply
  have late : now + span + delay = now + delay + span := Nat.add_right_comm now span delay
  cases answer with
  | returns result =>
    change next' result (now + span + delay) state = _
    rw [late]
    exact goesOn result (now + delay) state
  | crashes text =>
    change Run.mk _ (now + span + delay) _ _ = _
    rw [late]
    rfl

/-- **Running later.** Nothing but the instants tells when a procedure was run. -/
theorem run (h : Later span f procedure procedure') (service : Service σ) (now : Nanos) (state : σ) :
    procedure'.run service (now + span) state = (procedure.run service now state).later span f := by
  induction h generalizing now state with
  | done result => rfl
  | crash text => rfl
  -- the one reads `now`, the other `now + span`: that is what `Later.clock` is about
  | clock _ ih => exact ih now now state
  | sleep length _ ih =>
    rw [Procedure.run, Procedure.run, Nat.add_right_comm]
    exact ih (now + length) state
  | record event _ ih =>
    rw [Procedure.run, Procedure.run, after_later, ih now state]
    rfl
  | submit credential endpoint payload _ ih => exact congrArg _ (answered_later ih _ now _)
  | check endpoint id _ ih => exact congrArg _ (answered_later ih _ now _)
  | cancel endpoint id _ ih => exact congrArg _ (answered_later ih _ now _)

end Later

/-! ### Single steps -/

variable (span : Nanos)

theorem later_now : Later span (· + span) now now :=
  .clock fun instant => .done instant

theorem later_wait (length : Nanos) : Later span id (wait length) (wait length) :=
  .sleep length (.done ())

theorem later_note (event : Event) : Later span id (note event) (note event) :=
  .record event (.done ())

/-- The handle bears the instant of the submission. -/
theorem later_submitTask (endpoint : Endpoint) (payload : Payload) (credential : Credential) :
    Later span (Except.map (Handle.later span)) (submitTask endpoint payload credential)
      (submitTask endpoint payload credential) := by
  refine .clock fun submitted => .submit credential endpoint payload fun answer => ?_
  cases answer with
  | ok id => exact .done (Except.ok (Handle.mk id endpoint submitted))
  | error e => exact .done (Except.error e)

theorem later_checkTask (handle : Handle) :
    Later span id (checkTask handle) (checkTask (handle.later span)) :=
  .check handle.endpoint handle.id .done

end Procedure

namespace Polling

open Procedure (Later)

variable (span : Nanos)

/-- The time since the submission is the same. -/
theorem later_finish (handle : Handle) (word : String) (details : Option String)
    (outcome : Nanos → Outcome) :
    Later span id (finish handle word details outcome) (finish (handle.later span) word details outcome) := by
  refine (Procedure.later_now span).bind fun now => ?_
  rw [show now + span - (handle.later span).submitted = now - handle.submitted from
    Nat.add_sub_add_right now span handle.submitted]
  exact (Procedure.later_note span _).bind fun _ => .done _

theorem later_attempt (polling : Polling) (handle : Handle) (made left : Nat) :
    Later span id (attempt polling handle made left) (attempt polling (handle.later span) made left) := by
  induction left generalizing made with
  | zero => exact later_finish span handle _ _ _
  | succ left ih =>
    refine (Procedure.later_now span).bind fun now => ?_
    rw [show now + span - (handle.later span).submitted = now - handle.submitted from
      Nat.add_sub_add_right now span handle.submitted]
    -- both look at the same time since the submission, so both go on or both give up
    refine Later.ite (later_finish span handle _ _ _) ?_
    refine (Procedure.later_wait span _).bind fun _ => (Procedure.later_checkTask span handle).bind ?_
    intro answer
    rw [id]
    cases decision : Decision.of? answer with
    | some decision => exact later_finish span handle _ _ _
    | none => exact ih (made + 1)

/-- A poll does not look at the clock but to compare instants. -/
theorem later_poll (polling : Polling) (handle : Handle) :
    Later span id (polling.poll handle) (polling.poll (handle.later span)) :=
  later_attempt span polling handle 0 polling.maxAttempts

end Polling

end ServiceProbe
