import ServiceProbe.Proofs.Pool.Attribution
import ServiceProbe.Session.Program

/-!
# Invocations that measure time only

An invocation may look at the clock, but what it does should not depend on when it gets its worker.
`Invocation.Steady` says so: begun at any instant the invocation does what it does at instant zero, and all
instants are that much later. From the state that it meets such an invocation has a behaviour
(`Invocation.behaviour`), and a pool gives its workers to those behaviours:

* `Pool.spells_of_steady` — the spells of steady invocations are those of their behaviours;
* `Pool.reports_of_steady`, `Pool.steps_of_steady` — and so their reports and their steps do not depend on the
  number of workers, but for the order and the instants;
* `Job.Timeless.steady_shared`, `Job.Timeless.steady_alone` — jobs that compare instants only are steady.
-/

namespace ServiceProbe

/-! ### Steps without their instants -/

/-- The step with its instant left out. -/
def Step.undated : Step → Step
  | .call request _ => .call request 0
  | .event noted _ => .event noted 0

namespace Step

@[simp] theorem undated_later (span : Nanos) (step : Step) : (step.later span).undated = step.undated := by
  cases step <;> rfl

@[simp] theorem event?_undated (step : Step) : step.undated.event? = step.event? := by
  cases step <;> rfl

@[simp] theorem isCheck_undated (step : Step) : step.undated.isCheck = step.isCheck := by
  rcases step with ⟨request, instant⟩ | ⟨noted, instant⟩
  · cases request <;> rfl
  · rfl

/-- Two traces with the same steps, but for the instants and the order, have the same events. -/
theorem events_perm {trace trace' : List Step} (h : (trace.map undated).Perm (trace'.map undated)) :
    (trace.filterMap event?).Perm (trace'.filterMap event?) := by
  have same := h.filterMap event?
  rw [List.filterMap_map, List.filterMap_map] at same
  rwa [show event? ∘ undated = event? from funext event?_undated] at same

/-- And as many status requests. -/
theorem length_checks_eq {trace trace' : List Step} (h : (trace.map undated).Perm (trace'.map undated)) :
    (trace.filter isCheck).length = (trace'.filter isCheck).length := by
  have same := (h.filter isCheck).length_eq
  rw [List.filter_map, List.filter_map, List.length_map, List.length_map] at same
  rwa [show isCheck ∘ undated = isCheck from funext isCheck_undated] at same

end Step

/-! ### Steady invocations -/

/-- The work, a span later. -/
def Work.later (span : Nanos) (work : Work) : Work :=
  { work with finish := work.finish + span, trace := work.trace.map (Step.later span) }

namespace Invocation

variable {σ : Type}

/-- The invocation does the same whenever it gets its worker, but for the instants. -/
def Steady : Invocation σ → Prop
  | unbuilt _ => True
  | built work => ∀ start state, work start state = ((work 0 state).1.later start, (work 0 state).2)

/-- What the invocation does from a state on. -/
def behaviour (state : σ) : Invocation σ → Behaviour
  | unbuilt text => .unbuilt text
  | built work => .lasting (work 0 state).1.finish (work 0 state).1.ending (work 0 state).1.trace

/-- The state that the invocation leaves. -/
def leaves (state : σ) : Invocation σ → σ
  | unbuilt _ => state
  | built work => (work 0 state).2

/-- What invocations do one after the other from a state on. -/
def behaviours (state : σ) : List (Invocation σ) → List Behaviour
  | [] => []
  | invocation :: rest => invocation.behaviour state :: behaviours (invocation.leaves state) rest

/-- Invocations that share no state do what each of them does by itself. -/
theorem behaviours_unit (invocations : List (Invocation Unit)) :
    behaviours () invocations = invocations.map (behaviour ()) := by
  induction invocations with
  | nil => rfl
  | cons invocation rest ih => rw [behaviours, List.map_cons, ← ih]

end Invocation

namespace Pool

open Invocation

variable {σ : Type}

/-- The spells of steady invocations are those of their behaviours. -/
theorem spells_of_steady (workers : Nat) (begun now : Nanos) (finishes : List Nanos) (index : Nat)
    (state : σ) {invocations : List (Invocation σ)} (steady : ∀ invocation ∈ invocations, invocation.Steady) :
    (scheduleFrom workers begun now finishes index state invocations).spells =
      (scheduleFrom workers begun now finishes index ()
        ((behaviours state invocations).map Behaviour.invocation)).spells := by
  induction invocations generalizing now finishes index state with
  | nil => rfl
  | cons invocation rest ih =>
    have later := fun invocation member => steady invocation (List.mem_cons_of_mem _ member)
    have first := steady invocation List.mem_cons_self
    cases invocation with
    | unbuilt text =>
      exact congrArg (List.cons _) (ih now finishes (index + 1) state later)
    | built work =>
      -- what it does from its start on is what it does from instant zero on, later by that start
      have done := first (freeAt workers now finishes) state
      rw [behaviours, List.map_cons, behaviour, spells_lasting, Behaviour.spell, Nat.add_comm, leaves,
        ← ih _ _ _ _ later]
      simp only [scheduleFrom]
      rw [done]
      rfl

/-- A pool of steady invocations has the spells of their behaviours. -/
theorem run_spells_of_steady (requested : Nat) (begun : Nanos) (state : σ)
    {invocations : List (Invocation σ)} (steady : ∀ invocation ∈ invocations, invocation.Steady) :
    (run requested begun state invocations).spells =
      (run requested begun () ((behaviours state invocations).map Behaviour.invocation)).spells :=
  spells_of_steady (workers requested) begun begun [] 0 state steady

/-- The reports of steady invocations are those of their behaviours, in some order. -/
theorem reports_of_steady (requested : Nat) (begun : Nanos) (state : σ)
    {invocations : List (Invocation σ)} (steady : ∀ invocation ∈ invocations, invocation.Steady) :
    (run requested begun state invocations).reports.Perm
      (Behaviour.reports (behaviours state invocations)) := by
  have reports := run_reports_perm requested begun state invocations
  rwa [run_spells_of_steady requested begun state steady, report_run_spells] at reports

/-- The steps of steady invocations are those of their behaviours, but for the order and the instants. -/
theorem steps_of_steady (requested : Nat) (begun : Nanos) (state : σ)
    {invocations : List (Invocation σ)} (steady : ∀ invocation ∈ invocations, invocation.Steady) :
    ((Session.batchTrace (run requested begun state invocations).spells).map Step.undated).Perm
      ((behaviours state invocations).flatMap fun behaviour => behaviour.steps.map Step.undated) := by
  have shown : (run requested begun state invocations).spells.map
      (fun spell => spell.trace.map Step.undated) =
        (behaviours state invocations).mapIdx fun _ behaviour => behaviour.steps.map Step.undated := by
    rw [run_spells_of_steady requested begun state steady]
    refine map_run_spells _ _ _ _ fun index start behaviour => ?_
    cases behaviour with
    | unbuilt text => rfl
    | lasting span ending steps =>
      rw [Behaviour.spell, Behaviour.steps, List.map_map]
      exact List.map_congr_left fun step _ => step.undated_later start
  -- sorting by instants moves the steps about, and their order is not looked at here
  have sorted := List.mergeSort_perm
    ((run requested begun state invocations).spells.flatMap (·.trace)) (fun a b => a.instant ≤ b.instant)
  refine (sorted.map Step.undated).trans (.of_eq ?_)
  rw [List.map_flatMap, List.flatMap_def, shown, List.flatMap_def]
  exact congrArg List.flatten (List.mapIdx_eq_iff.2 fun _ => List.getElem?_map)

end Pool

namespace Job

variable {σ τ : Type}

/-- The job compares instants only: its procedure does the same at any time. -/
def Timeless : Job → Prop
  | unbuilt _ => True
  | built procedure => ∀ span, Procedure.Later span id procedure procedure

theorem work_later (span : Nanos) (run : Run σ (Except Error Outcome)) :
    work (run.later span id) = (work run).later span := by
  rw [work, Run.later, Ending.map_id]
  rfl

/-- Against a service that it shares with others, such a job is steady. -/
theorem Timeless.steady_shared {job : Job} (h : job.Timeless) (service : Service σ) :
    (job.shared service).Steady := by
  cases job with
  | unbuilt text => trivial
  | built procedure =>
    intro start state
    -- the span by which the run is later is the start itself
    have run := (h start).run service 0 state
    rw [Nat.zero_add] at run
    change (work (procedure.run service start state), (procedure.run service start state).state) = _
    rw [run, work_later]
    rfl

/-- And against a service of its own. -/
theorem Timeless.steady_alone {job : Job} (h : job.Timeless) (service : Service τ) (initial : τ) :
    (job.alone service initial).Steady := by
  cases job with
  | unbuilt text => trivial
  | built procedure =>
    intro start state
    have run := (h start).run service 0 initial
    rw [Nat.zero_add] at run
    change (work (procedure.run service start initial), state) = _
    rw [run, work_later]

end Job

end ServiceProbe
