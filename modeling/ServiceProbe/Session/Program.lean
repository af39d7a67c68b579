import ServiceProbe.Pool.Schedule

/-!
# Sessions

A `Session` strings procedures together. A procedure that breaks off does not end the session: what comes
next is told how the procedure ended. A session can also run a batch of jobs in a pool, which may break off
as well, ask whether the service is well, and print. `Session.run` plays it against a service on a simulated clock.

Main statement: sessions compose, and the second runs where the first ended (`run_bind`).
-/

namespace ServiceProbe

/-- What the harness does as a whole, up to a result. -/
inductive Session (α : Type) : Type 1 where
  | done (result : α)
  | clock (next : Nanos → Session α)
  | print (text : String) (next : Session α)
  | health (next : Bool → Session α)
  | perform {β : Type} (procedure : Procedure β) (next : Ending β → Session α)
  | batch (workers count : Nat) (job : Nat → Job) (next : Ending (List Report) → Session α)

namespace Session

variable {α β σ : Type}

/-- Goes on with `f` where a session ends. -/
def bind (session : Session α) (f : α → Session β) : Session β :=
  match session with
  | done result => f result
  | clock next => clock fun now => (next now).bind f
  | print text next => print text (next.bind f)
  | health next => health fun well => (next well).bind f
  | perform procedure next => perform procedure fun ending => (next ending).bind f
  | batch workers count job next => batch workers count job fun ending => (next ending).bind f

instance : Monad Session where
  pure := done
  bind := bind

/-! ### Single steps -/

/-- The present instant. -/
def now : Session Nanos :=
  clock done

def say (text : String) : Session Unit :=
  print text (done ())

/-- Asks whether the service is well. -/
def checkHealth : Session Bool :=
  health done

/-- Performs a procedure and tells how it ended. -/
def attempt (procedure : Procedure α) : Session (Ending α) :=
  perform procedure done

/-- Runs so many jobs in a pool and tells how that ended. -/
def inPool (workers count : Nat) (job : Nat → Job) : Session (Ending (List Report)) :=
  batch workers count job done

/-! ### Running -/

/-- A session as it was played. -/
structure Played (σ α : Type) where
  result : α
  finish : Nanos
  state : σ
  trace : List Step := []
  printed : String := ""

namespace Played

/-- The play with steps before it. -/
def afterSteps (steps : List Step) (played : Played σ α) : Played σ α :=
  { played with trace := steps ++ played.trace }

/-- The play with a text printed before it. -/
def afterText (text : String) (played : Played σ α) : Played σ α :=
  { played with printed := text ++ played.printed }

end Played

/-- The steps of all invocations in the order of their instants. -/
def batchTrace (spells : List Spell) : List Step :=
  (spells.flatMap (·.trace)).mergeSort fun a b => a.instant ≤ b.instant

/-- The run of a batch: there are reports when its pool is done, and nothing happens where the pool breaks
off. -/
def runBatch (service : Service σ) (workers count : Nat) (job : Nat → Job) (now : Nanos) (state : σ) :
    Run σ (List Report) :=
  match Pool.launch workers now state count fun index => (job index).shared service with
  | .returned pool => ⟨.returned pool.reports, pool.finish, pool.state, batchTrace pool.spells⟩
  | .crashed text => ⟨.crashed text, now, state, []⟩

/-- The play of a session from an instant and a state of the service on. -/
def run (service : Service σ) : Session α → Nanos → σ → Played σ α
  | done result, now, state => ⟨result, now, state, [], ""⟩
  | clock next, now, state => run service (next now) now state
  | print text next, now, state => (run service next now state).afterText text
  | health next, now, state =>
    let (well, state) := service.health state
    run service (next well) now state
  | perform procedure next, now, state =>
    let first := procedure.run service now state
    (run service (next first.ending) first.finish first.state).afterSteps first.trace
  | batch workers count job next, now, state =>
    let first := runBatch service workers count job now state
    (run service (next first.ending) first.finish first.state).afterSteps first.trace

/-- The play of `f` after a play. -/
def continued (service : Service σ) (f : α → Session β) (first : Played σ α) : Played σ β :=
  (((f first.result).run service first.finish first.state).afterText first.printed).afterSteps
    first.trace

private theorem continued_afterSteps (service : Service σ) (f : α → Session β) (steps : List Step)
    (first : Played σ α) :
    continued service f (first.afterSteps steps) = (continued service f first).afterSteps steps := by
  simp [continued, Played.afterSteps, Played.afterText, List.append_assoc]

private theorem continued_afterText (service : Service σ) (f : α → Session β) (text : String)
    (first : Played σ α) :
    continued service f (first.afterText text) = (continued service f first).afterText text := by
  simp [continued, Played.afterSteps, Played.afterText, String.append_assoc]

/-- **Running in sequence.** The second session runs where the first one ended. -/
theorem run_bind (service : Service σ) (session : Session α) (f : α → Session β) (now : Nanos)
    (state : σ) :
    (session.bind f).run service now state = continued service f (session.run service now state) := by
  induction session generalizing now state with
  | done result => simp [bind, run, continued, Played.afterSteps, Played.afterText]
  | clock next ih => exact ih now now state
  | print text next ih => simp only [bind, run, ih, continued_afterText]
  | health next ih => simp only [bind, run, ih]
  | perform procedure next ih => simp only [bind, run, ih, continued_afterSteps]
  | batch workers count job next ih => simp only [bind, run, ih, continued_afterSteps]

/-! ### Batches -/

section batches

variable {workers count : Nat}

/-- The jobs of a batch as a list. -/
theorem map_shared (service : Service σ) (count : Nat) (job : Nat → Job) :
    ((List.range count).map fun index => (job index).shared service) =
      ((List.range count).map job).map (Job.shared service) := by
  rw [List.map_map]
  rfl

/-- A batch with a channel is the run of a pool. -/
theorem runBatch_of_hasChannel (h : Pool.HasChannel workers count) (service : Service σ) (job : Nat → Job)
    (now : Nanos) (state : σ) :
    let pool := Pool.run workers now state (((List.range count).map job).map (Job.shared service))
    runBatch service workers count job now state =
      ⟨.returned pool.reports, pool.finish, pool.state, batchTrace pool.spells⟩ := by
  rw [← map_shared, runBatch, Pool.launch_of_hasChannel h]

/-- Without a channel nothing happens. -/
theorem runBatch_of_not_hasChannel (h : ¬ Pool.HasChannel workers count) (service : Service σ)
    (job : Nat → Job) (now : Nanos) (state : σ) :
    runBatch service workers count job now state = ⟨.crashed (some Pool.noChannel), now, state, []⟩ := by
  rw [runBatch, Pool.launch_of_not_hasChannel h]

end batches

end Session

end ServiceProbe
