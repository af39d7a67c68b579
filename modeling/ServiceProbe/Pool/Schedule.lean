import ServiceProbe.Pool.Invocation

/-!
# Pools of workers

A pool runs invocations with a bounded number of workers. They get a worker in the order of their
indices, each as soon as one is free, and give it back the instant they end, however they end. One that
breaks off while it is built needs no worker. The pool is done when all invocations have ended; it has
then exactly one report for each of them, those that reported in the order in which they ended and after
them those that did not.

The reports pass through a channel. It has room for two reports of each worker, but for no more than there
are invocations, and for that it needs as many permits. There are only so many of them: `Pool.launch` breaks
off before any invocation where the channel would need more, and else is a `Pool.run`.

Memory is taken to be unlimited: invocations that wait, their reports and the list of all reports always find
room.
-/

namespace ServiceProbe

namespace Pool

variable {σ : Type}

/-- The most workers a pool can have. -/
def maxWorkers : Nat := UInt64.size / 8 - 1

/-- The number of workers for a requested one. -/
def workers (requested : Nat) : Nat :=
  max 1 (min requested maxWorkers)

/-- The instants at which workers that are still busy at `now` become free. -/
def busyAfter (now : Nanos) (finishes : List Nanos) : List Nanos :=
  finishes.filter (now < ·)

/-- The first instant from `now` on at which a worker is free: `now` itself while fewer than all are
busy, else the next at which one becomes free. -/
def freeAt (workers : Nat) (now : Nanos) (finishes : List Nanos) : Nanos :=
  let busy := busyAfter now finishes
  if busy.length < workers then now else busy.min?.getD now

/-- The runs of invocations, and the state they leave. -/
structure Schedule (σ : Type) where
  spells : List Spell
  state : σ

/-- The runs of the invocations from an index on. `begun` is the instant at which the pool began, `now`
the one at which the invocation before them got its worker, and `finishes` the instants at which those
before them end. -/
def scheduleFrom (workers : Nat) (begun now : Nanos) (finishes : List Nanos) (index : Nat)
    (state : σ) : List (Invocation σ) → Schedule σ
  | [] => ⟨[], state⟩
  | .unbuilt text :: rest =>
    -- no worker is taken, and nobody waits for it
    let later := scheduleFrom workers begun now finishes (index + 1) state rest
    { later with spells := ⟨index, none, begun, .crashed text, []⟩ :: later.spells }
  | .built work :: rest =>
    let start := freeAt workers now finishes
    let (done, state) := work start state
    -- whoever has ended by `start` has given its worker back and need not be remembered
    let later :=
      scheduleFrom workers begun start (done.finish :: busyAfter start finishes) (index + 1) state rest
    { later with
      spells := ⟨index, some start, done.finish, done.ending, done.trace⟩ :: later.spells }

/-- The runs of invocations with so many workers. -/
def schedule (workers : Nat) (begun : Nanos) (state : σ) (invocations : List (Invocation σ)) :
    Schedule σ :=
  scheduleFrom workers begun begun [] 0 state invocations

end Pool

/-- The outcome reported for one invocation. -/
structure Report where
  index : Nat
  outcome : Outcome

namespace Report

/-- Reports in the order of their indices. -/
def byIndex (reports : List Report) : List Report :=
  reports.mergeSort fun a b => a.index ≤ b.index

end Report

/-- A pool that is done. -/
structure PoolRun (σ : Type) where
  workers : Nat
  spells : List Spell
  reports : List Report
  finish : Nanos
  state : σ

namespace Pool

variable {σ : Type}

/-- The reports in the order in which the invocations ended. -/
def received (spells : List Spell) : List Report :=
  (spells.mergeSort fun a b => a.finish ≤ b.finish).filterMap fun spell =>
    spell.reported?.map fun outcome => ⟨spell.index, outcome⟩

/-- The reports that came, and after them one for each index that none of them bears. Where as many came
as there are invocations none is looked for. -/
def complete (count : Nat) (reports : List Report) : List Report :=
  if reports.length = count then reports
  else
    let unseen := (List.range count).filter fun index => !reports.any (·.index == index)
    reports ++ unseen.map fun index => ⟨index, Spell.missing⟩

/-- The instant at which the last invocation has ended. -/
def finishOf (begun : Nanos) (spells : List Spell) : Nanos :=
  spells.foldl (fun latest spell => max latest spell.finish) begun

/-- Runs invocations with the requested number of workers, when there is a channel for their reports. -/
def run (requested : Nat) (begun : Nanos) (state : σ) (invocations : List (Invocation σ)) :
    PoolRun σ :=
  let schedule := schedule (workers requested) begun state invocations
  { workers := workers requested
    spells := schedule.spells
    reports := complete invocations.length (received schedule.spells)
    finish := finishOf begun schedule.spells
    state := schedule.state }

/-! ### The channel -/

/-- How many reports the channel holds for so many workers and invocations. -/
def capacity (workers count : Nat) : Nat :=
  min count (2 * workers)

/-- There are enough permits for the channel. They are as many as for workers, which are counted in the same
way. -/
def HasChannel (requested count : Nat) : Prop :=
  capacity (workers requested) count ≤ maxWorkers

instance (requested count : Nat) : Decidable (HasChannel requested count) :=
  inferInstanceAs (Decidable (_ ≤ _))

/-- The text of a pool that has no channel. -/
def noChannel : String :=
  s!"a semaphore may not have more than MAX_PERMITS permits ({maxWorkers})"

/-- Runs so many invocations with the requested number of workers, or breaks off if there is no channel for
their reports. -/
def launch (requested : Nat) (begun : Nanos) (state : σ) (count : Nat) (invocation : Nat → Invocation σ) :
    Ending (PoolRun σ) :=
  if HasChannel requested count then
    .returned (run requested begun state ((List.range count).map invocation))
  else .crashed (some noChannel)

section channel

variable {requested count : Nat} {begun : Nanos} {state : σ} {invocation : Nat → Invocation σ}

theorem launch_of_hasChannel (h : HasChannel requested count) :
    launch requested begun state count invocation =
      .returned (run requested begun state ((List.range count).map invocation)) :=
  if_pos h

theorem launch_of_not_hasChannel (h : ¬ HasChannel requested count) :
    launch requested begun state count invocation = .crashed (some noChannel) :=
  if_neg h

/-- A pool that returns is a run. -/
theorem launch_eq_returned_iff {pool : PoolRun σ} :
    launch requested begun state count invocation = .returned pool ↔
      HasChannel requested count ∧ run requested begun state ((List.range count).map invocation) = pool := by
  by_cases h : HasChannel requested count
  · rw [launch_of_hasChannel h, Ending.returned.injEq]
    exact (and_iff_right h).symm
  · rw [launch_of_not_hasChannel h]
    exact iff_of_false nofun fun returned => h returned.1

end channel

end Pool

end ServiceProbe
