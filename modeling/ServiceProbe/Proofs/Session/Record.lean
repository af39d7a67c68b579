import ServiceProbe.Session.Program

/-!
# Records with acceptances

A trace tells which requests were made, but not which tasks came of them. A record tells both: an `Entry` is a step
and, where the step is a submission that was accepted, the id that the service gave to the task. A record is made
along with the run whose steps it has, from the same answers of the service.

* `Procedure.map_step_entries`, `Session.map_step_entries` — without the ids a record is the trace of the run;
* `Pool.mem_lanesFrom` — in the record of a batch each job has a lane of its own, and the batch is the lanes
  merged by the instants of their steps (`Pool.merge`).
-/

namespace ServiceProbe

/-- A step, with the id of the task that came of it. -/
structure Entry where
  step : Step
  accepted? : Option String := none

/-- The id of the task that a reply to a submission accepts. -/
def Reply.accepted? (reply : Reply String) : Option String :=
  match reply.answer with
  | .returns (.ok id) => some id
  | .returns (.error _) => none
  | .crashes _ => none

namespace Procedure

variable {σ α : Type} (service : Service σ)

/-- The record of a procedure that is run from an instant and a state of the service on. -/
def entries : Procedure α → Nanos → σ → List Entry
  | done _, _, _ => []
  | crash _, _, _ => []
  | clock next, now, state => (next now).entries now state
  | sleep span next, now, state => next.entries (now + span) state
  | submit credential endpoint payload next, now, state =>
    let (reply, later) := service.submit state credential endpoint payload
    ⟨.call (.submit endpoint payload) now, reply.accepted?⟩ ::
      match reply.answer with
      | .returns result => (next result).entries (now + reply.delay) later
      | .crashes _ => []
  | check endpoint id next, now, state =>
    let (reply, later) := service.check state endpoint id
    ⟨.call (.check endpoint id) now, none⟩ ::
      match reply.answer with
      | .returns result => (next result).entries (now + reply.delay) later
      | .crashes _ => []
  | cancel endpoint id next, now, state =>
    let (reply, later) := service.cancel state endpoint id
    ⟨.call (.cancel endpoint id) now, none⟩ ::
      match reply.answer with
      | .returns result => (next result).entries (now + reply.delay) later
      | .crashes _ => []
  | record event next, now, state => ⟨.event event now, none⟩ :: next.entries now state

/-- The record of a procedure has the steps of its run. -/
theorem map_step_entries (procedure : Procedure α) (now : Nanos) (state : σ) :
    (procedure.entries service now state).map Entry.step = (procedure.run service now state).trace := by
  induction procedure generalizing now state with
  | done result => rfl
  | crash text => rfl
  | clock next ih => exact ih now now state
  | sleep span next ih => exact ih (now + span) state
  | record event next ih => exact congrArg (Step.event event now :: ·) (ih now state)
  | submit credential endpoint payload next ih =>
    rw [entries, List.map_cons]
    cases answer : (service.submit state credential endpoint payload).1.answer with
    | returns result =>
      rw [run_submit_returns answer]
      exact congrArg _ (ih result _ _)
    | crashes text =>
      rw [run_submit_crashes answer]
      rfl
  | check endpoint id next ih =>
    rw [entries, List.map_cons]
    cases answer : (service.check state endpoint id).1.answer with
    | returns result =>
      rw [run_check_returns answer]
      exact congrArg _ (ih result _ _)
    | crashes text =>
      rw [run_check_crashes answer]
      rfl
  | cancel endpoint id next ih =>
    rw [entries, List.map_cons]
    cases answer : (service.cancel state endpoint id).1.answer with
    | returns result =>
      rw [run_cancel_returns answer]
      exact congrArg _ (ih result _ _)
    | crashes text =>
      rw [run_cancel_crashes answer]
      rfl

end Procedure

namespace Pool

variable {σ : Type} (service : Service σ) (workers : Nat)

/-- The records of the jobs of a pool, each by itself, from a job on: `now` is the instant at which the job before
them got its worker, and `finishes` are those at which the jobs before them end. -/
def lanesFrom (now : Nanos) (finishes : List Nanos) (state : σ) : List Job → List (List Entry)
  | [] => []
  | .unbuilt _ :: rest => [] :: lanesFrom now finishes state rest
  | .built procedure :: rest =>
    let start := freeAt workers now finishes
    let run := procedure.run service start state
    procedure.entries service start state ::
      lanesFrom start (run.finish :: busyAfter start finishes) run.state rest

/-- The records of the jobs have the steps of their invocations. -/
theorem map_step_lanesFrom (begun now : Nanos) (finishes : List Nanos) (index : Nat) (state : σ)
    (jobs : List Job) :
    (lanesFrom service workers now finishes state jobs).map (List.map Entry.step) =
      (scheduleFrom workers begun now finishes index state (jobs.map (Job.shared service))).spells.map
        Spell.trace := by
  induction jobs generalizing now finishes index state with
  | nil => rfl
  | cons job rest ih =>
    cases job with
    | unbuilt text => exact congrArg ([] :: ·) (ih now finishes (index + 1) state)
    | built procedure =>
      rw [lanesFrom, List.map_cons, procedure.map_step_entries]
      exact congrArg (_ :: ·) (ih _ _ (index + 1) _)

/-- Each job has a lane, which is empty or the record of its procedure. -/
theorem mem_lanesFrom {now : Nanos} {finishes : List Nanos} {state : σ} {jobs : List Job} {lane : List Entry}
    (member : lane ∈ lanesFrom service workers now finishes state jobs) :
    (∃ text, .unbuilt text ∈ jobs ∧ lane = []) ∨
      ∃ procedure start state', .built procedure ∈ jobs ∧ lane = procedure.entries service start state' := by
  induction jobs generalizing now finishes state with
  | nil => exact absurd member List.not_mem_nil
  | cons job rest ih =>
    cases job with
    | unbuilt text =>
      -- an invocation that is not built has an empty lane
      rcases List.mem_cons.1 member with rfl | later
      · exact .inl ⟨text, List.mem_cons_self, rfl⟩
      · refine (ih later).imp ?_ ?_
        · exact fun ⟨text, among, isEmpty⟩ => ⟨text, List.mem_cons_of_mem _ among, isEmpty⟩
        · exact fun ⟨procedure, start, state', among, same⟩ =>
            ⟨procedure, start, state', List.mem_cons_of_mem _ among, same⟩
    | built procedure =>
      rcases List.mem_cons.1 member with rfl | later
      · exact .inr ⟨procedure, _, state, List.mem_cons_self, rfl⟩
      · refine (ih later).imp ?_ ?_
        · exact fun ⟨text, among, isEmpty⟩ => ⟨text, List.mem_cons_of_mem _ among, isEmpty⟩
        · exact fun ⟨procedure, start, state', among, same⟩ =>
            ⟨procedure, start, state', List.mem_cons_of_mem _ among, same⟩

theorem length_lanesFrom (now : Nanos) (finishes : List Nanos) (state : σ) (jobs : List Job) :
    (lanesFrom service workers now finishes state jobs).length = jobs.length := by
  induction jobs generalizing now finishes state with
  | nil => rfl
  | cons job rest ih =>
    cases job with
    | unbuilt text => exact congrArg Nat.succ (ih _ _ _)
    | built procedure => exact congrArg Nat.succ (ih _ _ _)

/-- The entries of all lanes in the order of their instants; of two at one instant the one of the earlier lane
comes first. -/
def merge (lanes : List (List Entry)) : List Entry :=
  lanes.flatten.mergeSort fun a b => a.step.instant ≤ b.step.instant

/-- The record of jobs in a pool with the requested number of workers. -/
def entries (requested : Nat) (now : Nanos) (state : σ) (jobs : List Job) : List Entry :=
  merge (lanesFrom service (Pool.workers requested) now [] state jobs)

/-- The record of a pool has the steps of its invocations. -/
theorem map_step_entries (requested : Nat) (now : Nanos) (state : σ) (jobs : List Job) :
    (entries service requested now state jobs).map Entry.step =
      Session.batchTrace (run requested now state (jobs.map (Job.shared service))).spells := by
  have lanes := map_step_lanesFrom service (Pool.workers requested) now now [] 0 state jobs
  rw [entries, merge, Session.batchTrace, List.flatMap_def]
  change _ = ((List.map Spell.trace (scheduleFrom _ _ _ _ _ _ _).spells).flatten).mergeSort _
  rw [← lanes, ← List.map_flatten]
  exact List.map_mergeSort fun _ _ _ _ => rfl

end Pool

namespace Session

variable {σ α β : Type} (service : Service σ)

/-- The record of a batch: that of its pool, and nothing where there is no channel for it. -/
def batchEntries (workers count : Nat) (job : Nat → Job) (now : Nanos) (state : σ) : List Entry :=
  if Pool.HasChannel workers count then Pool.entries service workers now state ((List.range count).map job)
  else []

/-- The record of a batch has the steps of its run. -/
theorem map_step_batchEntries (workers count : Nat) (job : Nat → Job) (now : Nanos) (state : σ) :
    (batchEntries service workers count job now state).map Entry.step =
      (runBatch service workers count job now state).trace := by
  by_cases channel : Pool.HasChannel workers count
  · rw [batchEntries, if_pos channel, runBatch_of_hasChannel channel, Pool.map_step_entries]
  · rw [batchEntries, if_neg channel, runBatch_of_not_hasChannel channel, List.map_nil]

/-- The record of a session that is played from an instant and a state of the service on. -/
def entries : Session α → Nanos → σ → List Entry
  | done _, _, _ => []
  | clock next, now, state => (next now).entries now state
  | print _ next, now, state => next.entries now state
  | health next, now, state =>
    let (well, state) := service.health state
    (next well).entries now state
  | perform procedure next, now, state =>
    let first := procedure.run service now state
    procedure.entries service now state ++ (next first.ending).entries first.finish first.state
  | batch workers count job next, now, state =>
    let first := runBatch service workers count job now state
    batchEntries service workers count job now state ++ (next first.ending).entries first.finish first.state

/-- The record of a session has the steps of its play. -/
theorem map_step_entries (session : Session α) (now : Nanos) (state : σ) :
    (session.entries service now state).map Entry.step = (session.run service now state).trace := by
  induction session generalizing now state with
  | done result => rfl
  | clock next ih => exact ih now now state
  | print text next ih => exact ih now state
  | health next ih => exact ih _ now _
  | perform procedure next ih =>
    rw [entries, List.map_append, procedure.map_step_entries, ih]
    rfl
  | batch workers count job next ih =>
    rw [entries, List.map_append, map_step_batchEntries, ih]
    rfl

/-- The record of two sessions one after the other. -/
theorem entries_bind (session : Session α) (f : α → Session β) (now : Nanos) (state : σ) :
    (session.bind f).entries service now state =
      session.entries service now state ++
        (f (session.run service now state).result).entries service (session.run service now state).finish
          (session.run service now state).state := by
  induction session generalizing now state with
  | done result => rfl
  | clock next ih => exact ih now now state
  | print text next ih => exact ih now state
  | health next ih => exact ih _ now _
  | perform procedure next ih =>
    rw [bind, entries, ih, entries, List.append_assoc]
    rfl
  | batch workers count job next ih =>
    rw [bind, entries, ih, entries, List.append_assoc]
    rfl

end Session

end ServiceProbe
