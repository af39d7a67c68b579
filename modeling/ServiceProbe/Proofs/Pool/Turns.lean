import ServiceProbe.Pool.Schedule

/-!
# The turns of invocations

The invocations of a pool meet its service in turn. When one of them gets its worker depends on all that come
before it; what it meets then is the state that those before it leave. So the spell at a place can be told
without the schedule, but for its start (`Invocation.spell`).

* `Pool.index_spells` — the spells bear the indices in order, one each;
* `Pool.getElem?_spells_turn`, `Pool.getElem?_run_spells` — the spell at a place is the one of the invocation
  there, from the state that those before it leave, and it starts at once if there are workers enough.
-/

namespace ServiceProbe

variable {σ : Type}

/-- The run of an invocation with an index, in a pool that began at `begun`, if it gets its worker at `start`
and meets a state then. -/
def Invocation.spell (begun : Nanos) (index : Nat) (start : Nanos) (state : σ) : Invocation σ → Spell
  | unbuilt text => ⟨index, none, begun, .crashed text, []⟩
  | built work =>
    let done := (work start state).1
    ⟨index, some start, done.finish, done.ending, done.trace⟩

namespace Job

variable {τ : Type}

/-- The run of a job with an index, in the same way, against a service in a state. -/
def spell (service : Service τ) (begun : Nanos) (index : Nat) (start : Nanos) (state : τ) : Job → Spell
  | unbuilt text => ⟨index, none, begun, .crashed text, []⟩
  | built procedure =>
    let run := procedure.run service start state
    ⟨index, some start, run.finish, InvocationEnd.ofEnding run.ending, run.trace⟩

/-- A job that shares its service meets the state in which the others have left it. -/
theorem spell_shared (service : Service σ) (begun : Nanos) (index : Nat) (start : Nanos) (state : σ) (job : Job) :
    (job.shared service).spell begun index start state = job.spell service begun index start state := by
  cases job <;> rfl

/-- A job with a service of its own meets the state that this one is in at the beginning. -/
theorem spell_alone (service : Service τ) (initial : τ) (begun : Nanos) (index : Nat) (start : Nanos) (state : Unit)
    (job : Job) :
    (job.alone service initial).spell begun index start state = job.spell service begun index start initial := by
  cases job <;> rfl

end Job

namespace Pool

section spells

variable (workers : Nat) (begun now : Nanos) (finishes : List Nanos) (index : Nat) (state : σ)

/-- The spells bear the indices in order. -/
theorem index_spells (invocations : List (Invocation σ)) :
    (scheduleFrom workers begun now finishes index state invocations).spells.map (·.index) =
      List.range' index invocations.length := by
  induction invocations generalizing now finishes index state with
  | nil => rfl
  | cons invocation rest ih =>
    cases invocation with
    | unbuilt text =>
      rw [List.length_cons, List.range'_succ]
      exact congrArg (index :: ·) (ih now finishes (index + 1) state)
    | built work =>
      rw [List.length_cons, List.range'_succ]
      exact congrArg (index :: ·) (ih _ _ (index + 1) _)

theorem length_spells (invocations : List (Invocation σ)) :
    (scheduleFrom workers begun now finishes index state invocations).spells.length =
      invocations.length := by
  have h := congrArg List.length
    (index_spells workers begun now finishes index state invocations)
  rwa [List.length_map, List.length_range'] at h

end spells

/-- Fewer busy workers than there are leave one that is free at once. -/
theorem freeAt_of_length_lt {workers : Nat} {finishes : List Nanos} (now : Nanos)
    (few : finishes.length < workers) : freeAt workers now finishes = now := by
  have busy : (busyAfter now finishes).length < workers :=
    Nat.lt_of_le_of_lt (List.length_filter_le _ _) few
  rw [freeAt, if_pos busy]

/-- **Turns.** The spell at a place is the one of the invocation there, which meets the state that those before
it leave. It starts at once if each invocation finds a free worker. -/
theorem getElem?_spells_turn (workers : Nat) (begun now : Nanos) (finishes : List Nanos) (index : Nat) (state : σ)
    {invocations : List (Invocation σ)} {place : Nat} {invocation : Invocation σ}
    (here : invocations[place]? = some invocation) :
    ∃ start, (finishes.length + invocations.length ≤ workers → start = now) ∧
      (scheduleFrom workers begun now finishes index state invocations).spells[place]? =
        some (invocation.spell begun (index + place) start
          (scheduleFrom workers begun now finishes index state (invocations.take place)).state) := by
  -- the pool in the middle is kept general, with the workers that are busy in it
  induction invocations generalizing now finishes index state place with
  | nil => exact absurd here (by simp)
  | cons first rest ih =>
    rw [List.length_cons]
    cases place with
    | zero =>
      obtain rfl : first = invocation := Option.some.inj here
      refine ⟨freeAt workers now finishes, fun enough => freeAt_of_length_lt now (by omega), ?_⟩
      cases first <;> rfl
    | succ place =>
      rw [List.getElem?_cons_succ] at here
      rw [List.take_succ_cons, show index + (place + 1) = index + 1 + place by omega]
      cases first with
      | unbuilt text =>
        obtain ⟨start, atOnce, spell⟩ := ih now finishes (index + 1) state here
        exact ⟨start, fun enough => atOnce (by omega), spell⟩
      | built work =>
        obtain ⟨start, atOnce, spell⟩ := ih (freeAt workers now finishes) _ (index + 1) _ here
        refine ⟨start, fun enough => ?_, spell⟩
        -- the first one got its worker at once and is one more that may be busy
        have first : freeAt workers now finishes = now := freeAt_of_length_lt now (by omega)
        have busy : (busyAfter (freeAt workers now finishes) finishes).length ≤ finishes.length :=
          List.length_filter_le _ _
        rw [← first]
        refine atOnce ?_
        rw [List.length_cons]
        omega

variable (requested : Nat) (begun : Nanos) (state : σ) {invocations : List (Invocation σ)} {place : Nat}
  {invocation : Invocation σ}

/-- The spells of a pool, each with the state that the invocations before it leave. -/
theorem getElem?_run_spells (here : invocations[place]? = some invocation) :
    ∃ start, (invocations.length ≤ workers requested → start = begun) ∧
      (run requested begun state invocations).spells[place]? =
        some (invocation.spell begun place start (run requested begun state (invocations.take place)).state) := by
  obtain ⟨start, atOnce, spell⟩ := getElem?_spells_turn (workers requested) begun begun [] 0 state here
  rw [List.length_nil, Nat.zero_add] at atOnce
  rw [Nat.zero_add] at spell
  exact ⟨start, atOnce, spell⟩

/-- Each spell of a pool is the one of an invocation in its turn. -/
theorem exists_turn_of_mem {spell : Spell} (member : spell ∈ (run requested begun state invocations).spells) :
    ∃ place, ∃ invocation : Invocation σ, ∃ start, invocations[place]? = some invocation ∧
      (invocations.length ≤ workers requested → start = begun) ∧
      spell = invocation.spell begun place start (run requested begun state (invocations.take place)).state := by
  obtain ⟨place, bound, rfl⟩ := List.mem_iff_getElem.1 member
  have length : (run requested begun state invocations).spells.length = invocations.length :=
    length_spells (workers requested) begun begun [] 0 state invocations
  obtain ⟨invocation, here⟩ : ∃ invocation, invocations[place]? = some invocation :=
    ⟨_, List.getElem?_eq_getElem (length ▸ bound)⟩
  obtain ⟨start, atOnce, spell⟩ := getElem?_run_spells requested begun state here
  exact ⟨place, invocation, start, here, atOnce, (List.getElem_eq_iff bound).2 spell⟩

end Pool

end ServiceProbe
