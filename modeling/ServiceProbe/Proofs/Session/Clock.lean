import ServiceProbe.Proofs.Pool.WorkerBudget
import ServiceProbe.Session.Program

/-!
# The clock of a session

A trace is `Timely` between two instants if its steps lie there and stand in the order of time. Traces that
follow one another are timely together, so what is to be shown of a procedure or a session is only that each
of its steps bears the instant at which it is taken.

* `Procedure.timely_run` — the run of a procedure, between the instant at which it begins and its end;
* `Pool.timely_batch` — the invocations of a pool, which take their steps side by side;
* `Session.timely_run` — the play of a session.
-/

namespace ServiceProbe

/-- The steps lie between two instants and stand in the order of time. -/
structure Timely (begun finish : Nanos) (trace : List Step) : Prop where
  begun_le : begun ≤ finish
  within : ∀ step ∈ trace, begun ≤ step.instant ∧ step.instant ≤ finish
  ordered : trace.Pairwise fun earlier later => earlier.instant ≤ later.instant

namespace Timely

variable {begun begun' middle finish finish' : Nanos} {trace trace' : List Step}

theorem nil (h : begun ≤ finish) : Timely begun finish [] :=
  ⟨h, fun _ none => absurd none List.not_mem_nil, .nil⟩

/-- What follows begins where the first part ended. -/
theorem append (h : Timely begun middle trace) (h' : Timely middle finish trace') :
    Timely begun finish (trace ++ trace') := by
  refine ⟨Nat.le_trans h.begun_le h'.begun_le, fun step member => ?_, ?_⟩
  · rcases List.mem_append.1 member with first | later
    · exact ⟨(h.within step first).1, Nat.le_trans (h.within step first).2 h'.begun_le⟩
    · exact ⟨Nat.le_trans h.begun_le (h'.within step later).1, (h'.within step later).2⟩
  · refine List.pairwise_append.2 ⟨h.ordered, h'.ordered, fun step first step' later => ?_⟩
    exact Nat.le_trans (h.within step first).2 (h'.within step' later).1

/-- A step at the instant at which a trace begins. -/
theorem cons {step : Step} (here : step.instant = begun) (h : Timely begun finish trace) :
    Timely begun finish (step :: trace) := by
  have first : Timely begun begun [step] := by
    refine ⟨Nat.le_refl _, fun other member => ?_, List.pairwise_singleton _ _⟩
    obtain rfl := List.mem_singleton.1 member
    exact ⟨Nat.le_of_eq here.symm, Nat.le_of_eq here⟩
  exact first.append h

/-- Nothing happens before a trace begins. -/
theorem of_le (earlier : begun' ≤ begun) (h : Timely begun finish trace) : Timely begun' finish trace :=
  (nil earlier).append h

end Timely

/-! ### Procedures -/

/-- What follows an answer begins when the answer is there. -/
theorem Timely.answered {σ α β : Type} {next : Except Error β → Nanos → σ → Run σ α}
    (goesOn : ∀ result now state, Timely now (next result now state).finish (next result now state).trace)
    (reply : Reply β) (now : Nanos) (state : σ) :
    Timely now (Procedure.answered reply now state next).finish (Procedure.answered reply now state next).trace := by
  obtain ⟨answer, delay⟩ := reply
  cases answer with
  | returns result => exact (goesOn result (now + delay) state).of_le (Nat.le_add_right now delay)
  | crashes text => exact .nil (Nat.le_add_right now delay)

/-- A procedure takes its steps from the instant at which it begins to the one at which it ends. -/
theorem Procedure.timely_run {σ α : Type} (service : Service σ) (procedure : Procedure α) (now : Nanos)
    (state : σ) :
    Timely now (procedure.run service now state).finish (procedure.run service now state).trace := by
  induction procedure generalizing now state with
  | done result => exact .nil (Nat.le_refl now)
  | crash text => exact .nil (Nat.le_refl now)
  | clock next ih => exact ih now now state
  | sleep span next ih => exact (ih (now + span) state).of_le (Nat.le_add_right now span)
  | record event next ih => exact (ih now state).cons rfl
  | submit credential endpoint payload next ih => exact (Timely.answered ih _ now _).cons rfl
  | check endpoint id next ih => exact (Timely.answered ih _ now _).cons rfl
  | cancel endpoint id next ih => exact (Timely.answered ih _ now _).cons rfl

/-! ### Pools -/

variable {σ : Type}

/-- The invocation takes its steps from the instant at which it gets its worker to the one at which it
ends. -/
def Invocation.IsTimely : Invocation σ → Prop
  | unbuilt _ => True
  | built work => ∀ start state, Timely start (work start state).1.finish (work start state).1.trace

theorem Job.isTimely_shared (service : Service σ) (job : Job) : (job.shared service).IsTimely := by
  cases job with
  | unbuilt text => trivial
  | built procedure => exact fun start state => procedure.timely_run service start state

namespace Pool

/-- No invocation takes a step before its pool begins. -/
theorem timely_of_mem_spells {workers : Nat} (positive : 0 < workers) {begun now : Nanos}
    (since : begun ≤ now) (finishes : List Nanos) (index : Nat) (state : σ)
    {invocations : List (Invocation σ)} (timely : ∀ invocation ∈ invocations, invocation.IsTimely) :
    ∀ spell ∈ (scheduleFrom workers begun now finishes index state invocations).spells,
      Timely begun spell.finish spell.trace := by
  induction invocations generalizing now finishes index state with
  | nil => exact fun _ none => absurd none List.not_mem_nil
  | cons invocation rest ih =>
    have later := fun invocation member => timely invocation (List.mem_cons_of_mem _ member)
    intro spell member
    cases invocation with
    | unbuilt text =>
      rcases List.mem_cons.1 member with rfl | among
      · exact .nil (Nat.le_refl begun)
      · exact ih since finishes (index + 1) state later spell among
    | built work =>
      -- it gets its worker when one is free, which is not before now
      have start : begun ≤ freeAt workers now finishes := Nat.le_trans since (le_freeAt positive)
      rcases List.mem_cons.1 member with rfl | among
      · exact (timely _ List.mem_cons_self (freeAt workers now finishes) state).of_le start
      · exact ih start _ (index + 1) _ later spell among

/-- The steps of all invocations of a pool, side by side. -/
theorem timely_batch (requested : Nat) (begun : Nanos) (state : σ) {invocations : List (Invocation σ)}
    (timely : ∀ invocation ∈ invocations, invocation.IsTimely) :
    Timely begun (run requested begun state invocations).finish
      (Session.batchTrace (run requested begun state invocations).spells) := by
  obtain ⟨begun_le, last⟩ := le_finishOf begun (run requested begun state invocations).spells
  refine ⟨begun_le, fun step member => ?_, ?_⟩
  · obtain ⟨spell, among, taken⟩ := List.mem_flatMap.1 ((List.mergeSort_perm _ _).subset member)
    have spellTimely := timely_of_mem_spells (workers_pos requested) (Nat.le_refl begun) [] 0 state timely
      spell among
    have within := spellTimely.within step taken
    exact ⟨within.1, Nat.le_trans within.2 (last spell among)⟩
  · have sorted := List.pairwise_mergeSort (sooner_trans Step.instant) (sooner_total Step.instant)
      ((run requested begun state invocations).spells.flatMap (·.trace))
    exact sorted.imp of_decide_eq_true

end Pool

/-! ### Sessions -/

/-- A batch takes its steps from the instant at which it begins to the one at which its pool is done. -/
theorem Session.timely_runBatch (service : Service σ) (workers count : Nat) (job : Nat → Job) (now : Nanos)
    (state : σ) :
    Timely now (runBatch service workers count job now state).finish
      (runBatch service workers count job now state).trace := by
  by_cases channel : Pool.HasChannel workers count
  · rw [runBatch_of_hasChannel channel]
    refine Pool.timely_batch workers now state fun invocation member => ?_
    obtain ⟨job, -, rfl⟩ := List.mem_map.1 member
    exact job.isTimely_shared service
  · rw [runBatch_of_not_hasChannel channel]
    exact .nil (Nat.le_refl now)

/-- A session takes its steps from the instant at which it begins to the one at which it ends. -/
theorem Session.timely_run {α : Type} (service : Service σ) (session : Session α) (now : Nanos)
    (state : σ) :
    Timely now (session.run service now state).finish (session.run service now state).trace := by
  induction session generalizing now state with
  | done result => exact .nil (Nat.le_refl now)
  | clock next ih => exact ih now now state
  | print text next ih => exact ih now state
  | health next ih => exact ih _ now _
  | perform procedure next ih => exact (procedure.timely_run service now state).append (ih _ _ _)
  | batch workers count job next ih =>
    exact (timely_runBatch service workers count job now state).append (ih _ _ _)

end ServiceProbe
