import ServiceProbe.Proofs.Pool.Attribution

/-!
# The workers of a pool: never too many busy, none idle while somebody waits

An invocation is *in flight* from the instant at which it gets its worker up to the one at which it ends,
the latter not included. A schedule is built invocation by invocation, and what it carries along — the
instants at which those placed so far end — is just enough to know how many of them are in flight from now
on. `Placed` states this, together with what holds of the past: from the beginning up to now all workers
were busy. One more invocation keeps it (`Placed.unbuilt`, `Placed.built`), and it says what is known where
that invocation starts (`Placed.admits`): every worker was busy at each instant before, one is free then.

* `Admitted` — where an invocation starts, given the spells before it;
* `admitted_of_getElem?` — every invocation of a schedule starts so;
* `run_keeps_workers_busy` — the bound and the absence of idling, for any number of workers;
* `launch_keeps_workers_busy` — so it is of a pool of so many invocations, which ends with the last of them where
  there is a channel for it, and does not begin otherwise.

None of this needs the invocations to keep to themselves. That endings and invocations that break off while
they are built have no influence on the others does, and it is read off `timesFrom`, which computes starts
and ends from the spans alone (`times_spells`).
-/

namespace ServiceProbe

/-- The invocation has a worker at this instant. -/
def Spell.isInFlight (spell : Spell) (instant : Nanos) : Bool :=
  match spell.start with
  | some start => decide (start ≤ instant ∧ instant < spell.finish)
  | none => false

theorem Spell.isInFlight_of_start {spell : Spell} {start : Nanos} (starts : spell.start = some start)
    (instant : Nanos) :
    spell.isInFlight instant = decide (start ≤ instant ∧ instant < spell.finish) := by
  rw [Spell.isInFlight, starts]

theorem Spell.isInFlight_of_idle {spell : Spell} (idle : spell.start = none) (instant : Nanos) :
    spell.isInFlight instant = false := by
  rw [Spell.isInFlight, idle]

namespace Pool

/-- How many of some invocations are in flight at an instant. -/
def inFlight (spells : List Spell) (instant : Nanos) : Nat :=
  spells.countP (·.isInFlight instant)

theorem inFlight_append_singleton (earlier : List Spell) (spell : Spell) (instant : Nanos) :
    inFlight (earlier ++ [spell]) instant =
      inFlight earlier instant + if spell.isInFlight instant then 1 else 0 := by
  rw [inFlight, List.countP_append, List.countP_singleton]
  rfl

/-! ### The next instant at which a worker is free -/

section FreeAt

variable {workers : Nat} {now : Nanos} {finishes : List Nanos}

/-- How many of the remembered ends lie after an instant. -/
def endingAfter (finishes : List Nanos) (instant : Nanos) : Nat :=
  finishes.countP (instant < ·)

theorem endingAfter_cons (finish : Nanos) (finishes : List Nanos) (instant : Nanos) :
    endingAfter (finish :: finishes) instant =
      endingAfter finishes instant + if instant < finish then 1 else 0 := by
  rw [endingAfter, List.countP_cons]
  simp only [endingAfter, decide_eq_true_iff]

theorem length_busyAfter (now : Nanos) (finishes : List Nanos) :
    (busyAfter now finishes).length = endingAfter finishes now :=
  List.countP_eq_length_filter.symm

/-- Those that have ended by an instant need not be remembered after it. -/
theorem endingAfter_busyAfter {instant : Nanos} (later : now ≤ instant) :
    endingAfter (busyAfter now finishes) instant = endingAfter finishes instant := by
  rw [endingAfter, busyAfter, List.countP_filter]
  refine List.countP_congr fun finish _ => ?_
  rw [Bool.and_eq_true, decide_eq_true_iff, decide_eq_true_iff]
  exact ⟨fun h => h.1, fun h => ⟨h, Nat.lt_of_le_of_lt later h⟩⟩

/-- The next free instant is now, or all workers are busy and it is the first end after now. -/
theorem freeAt_cases (positive : 0 < workers) (now : Nanos) (finishes : List Nanos) :
    (endingAfter finishes now < workers ∧ freeAt workers now finishes = now) ∨
      (workers ≤ endingAfter finishes now ∧ now < freeAt workers now finishes ∧
        freeAt workers now finishes ∈ finishes ∧
        ∀ finish ∈ finishes, now < finish → freeAt workers now finishes ≤ finish) := by
  have length := length_busyAfter now finishes
  by_cases room : endingAfter finishes now < workers
  · left
    exact ⟨room, if_pos (length ▸ room)⟩
  · right
    -- all workers are busy, so there is a first one to become free
    have busy : busyAfter now finishes ≠ [] := by
      intro none
      rw [none, List.length_nil] at length
      omega
    obtain ⟨first, isFirst⟩ := Option.isSome_iff_exists.1 (List.isSome_min?_of_ne_nil busy)
    obtain ⟨among, least⟩ := List.min?_eq_some_iff.1 isFirst
    obtain ⟨member, after⟩ := List.mem_filter.1 among
    have free : freeAt workers now finishes = first := by
      unfold freeAt
      simp only [length, if_neg room, isFirst, Option.getD_some]
    rw [free]
    refine ⟨Nat.le_of_not_lt room, of_decide_eq_true after, member, ?_⟩
    intro finish given late
    exact least finish (List.mem_filter.2 ⟨given, decide_eq_true late⟩)

theorem le_freeAt (positive : 0 < workers) : now ≤ freeAt workers now finishes := by
  rcases freeAt_cases positive now finishes with ⟨-, same⟩ | ⟨-, after, -⟩
  · exact Nat.le_of_eq same.symm
  · exact Nat.le_of_lt after

/-- Until the next free instant all workers stay busy. -/
theorem endingAfter_of_lt_freeAt (positive : 0 < workers)
    (bounded : endingAfter finishes now ≤ workers) {instant : Nanos} (later : now ≤ instant)
    (before : instant < freeAt workers now finishes) : endingAfter finishes instant = workers := by
  rcases freeAt_cases positive now finishes with ⟨-, same⟩ | ⟨all, -, -, first⟩
  · rw [same] at before
    exact absurd later (Nat.not_le_of_lt before)
  · -- nobody ends between now and then
    have same : endingAfter finishes instant = endingAfter finishes now := by
      refine List.countP_congr fun finish member => ?_
      rw [decide_eq_true_iff, decide_eq_true_iff]
      exact ⟨Nat.lt_of_le_of_lt later,
        fun late => Nat.lt_of_lt_of_le before (first finish member late)⟩
    exact same.trans (Nat.le_antisymm bounded all)

/-- At the next free instant a worker is free. -/
theorem endingAfter_freeAt_lt (positive : 0 < workers)
    (bounded : endingAfter finishes now ≤ workers) :
    endingAfter finishes (freeAt workers now finishes) < workers := by
  rcases freeAt_cases positive now finishes with
    ⟨room, same⟩ | ⟨-, after, member, -⟩
  · rwa [same]
  · refine Nat.lt_of_lt_of_le ?_ bounded
    -- the one whose end this is counts now and no longer then
    obtain ⟨before, behind, split⟩ := List.append_of_mem member
    generalize freeAt workers now finishes = free at *
    have mono (ends : List Nanos) : endingAfter ends free ≤ endingAfter ends now :=
      List.countP_mono_left fun finish _ late =>
        decide_eq_true (Nat.lt_trans after (of_decide_eq_true late))
    have own : endingAfter (free :: behind) free < endingAfter (free :: behind) now := by
      rw [endingAfter, endingAfter, List.countP_cons_of_neg (by simp),
        List.countP_cons_of_pos (by simpa using after)]
      exact Nat.lt_succ_of_le (mono behind)
    have front := mono before
    rw [split, endingAfter, endingAfter, List.countP_append, List.countP_append]
    exact Nat.add_lt_add_of_le_of_lt front own

end FreeAt

/-! ### What is known while a schedule is built -/

/-- What is known when some invocations have been placed, the last of them at `now`: the remembered ends
tell how many of them are in flight from now on, and up to now all workers were busy. -/
structure Placed (workers : Nat) (begun now : Nanos) (finishes : List Nanos)
    (earlier : List Spell) : Prop where
  begun_le : begun ≤ now
  started : ∀ spell ∈ earlier, ∀ start, spell.start = some start → begun ≤ start ∧ start ≤ now
  known : ∀ instant, now ≤ instant → inFlight earlier instant = endingAfter finishes instant
  bounded : inFlight earlier now ≤ workers
  full : ∀ instant, begun ≤ instant → instant < now → inFlight earlier instant = workers

/-- Where an invocation starts, given the spells before it: not before any of them, and at the first instant
at which a worker is free. -/
structure Admitted (workers : Nat) (begun : Nanos) (earlier : List Spell) (start : Nanos) : Prop where
  begun_le : begun ≤ start
  ordered : ∀ spell ∈ earlier, ∀ other, spell.start = some other → other ≤ start
  full : ∀ instant, begun ≤ instant → instant < start → inFlight earlier instant = workers
  room : inFlight earlier start < workers

namespace Placed

variable {workers : Nat} {begun now : Nanos} {finishes : List Nanos} {earlier : List Spell}

theorem initial (workers : Nat) (begun : Nanos) : Placed workers begun begun [] [] where
  begun_le := Nat.le_refl begun
  started := fun _ none => absurd none List.not_mem_nil
  known := fun _ _ => rfl
  bounded := Nat.zero_le workers
  full := fun _ since before => absurd since (Nat.not_le_of_lt before)

theorem endingAfter_le (placed : Placed workers begun now finishes earlier) :
    endingAfter finishes now ≤ workers :=
  placed.known now (Nat.le_refl now) ▸ placed.bounded

/-- The next free instant is where the next invocation has to start. -/
theorem admits (placed : Placed workers begun now finishes earlier) (positive : 0 < workers) :
    Admitted workers begun earlier (freeAt workers now finishes) := by
  have later : now ≤ freeAt workers now finishes := le_freeAt positive
  refine ⟨Nat.le_trans placed.begun_le later, ?_, ?_, ?_⟩
  -- whoever was placed before started before now
  · intro spell member other starts
    exact Nat.le_trans (placed.started spell member other starts).2 later
  -- up to now all were busy, and from now on the remembered ends tell
  · intro instant since before
    rcases Nat.lt_or_ge instant now with past | present
    · exact placed.full instant since past
    · rw [placed.known instant present]
      exact endingAfter_of_lt_freeAt positive placed.endingAfter_le present before
  · rw [placed.known _ later]
    exact endingAfter_freeAt_lt positive placed.endingAfter_le

/-- One more invocation that never has a worker changes nothing. -/
theorem unbuilt (placed : Placed workers begun now finishes earlier) {spell : Spell}
    (idle : spell.start = none) : Placed workers begun now finishes (earlier ++ [spell]) := by
  -- it is never in flight, so nothing that is counted changes
  have never (instant : Nanos) : inFlight (earlier ++ [spell]) instant = inFlight earlier instant := by
    rw [inFlight_append_singleton, Spell.isInFlight_of_idle idle]
    rfl
  refine ⟨placed.begun_le, ?_, ?_, ?_, ?_⟩
  · intro other member start starts
    rcases List.mem_append.1 member with among | last
    · exact placed.started other among start starts
    · rw [List.mem_singleton.1 last, idle] at starts
      exact absurd starts (by simp)
  · intro instant later
    rw [never]
    exact placed.known instant later
  · rw [never]
    exact placed.bounded
  · intro instant since before
    rw [never]
    exact placed.full instant since before

/-- One more invocation, placed at the next free instant. -/
theorem built (placed : Placed workers begun now finishes earlier) (positive : 0 < workers)
    {spell : Spell} (starts : spell.start = some (freeAt workers now finishes)) :
    Placed workers begun (freeAt workers now finishes)
      (spell.finish :: busyAfter (freeAt workers now finishes) finishes) (earlier ++ [spell]) := by
  have admitted := placed.admits positive
  have later : now ≤ freeAt workers now finishes := le_freeAt positive
  refine ⟨admitted.begun_le, ?_, ?_, ?_, ?_⟩
  · intro other member start begins
    rcases List.mem_append.1 member with among | last
    · exact ⟨(placed.started other among start begins).1, admitted.ordered other among start begins⟩
    · rw [List.mem_singleton.1 last, starts] at begins
      obtain rfl := Option.some.inj begins
      exact ⟨admitted.begun_le, Nat.le_refl _⟩
  · intro instant present
    rw [inFlight_append_singleton, placed.known instant (Nat.le_trans later present),
      Spell.isInFlight_of_start starts, endingAfter_cons, endingAfter_busyAfter present]
    simp only [present, true_and, decide_eq_true_iff]
  · rw [inFlight_append_singleton]
    have room := admitted.room
    split <;> omega
  · intro instant since before
    -- the new invocation is not in flight before it starts
    have notYet : ¬(freeAt workers now finishes ≤ instant ∧ instant < spell.finish) :=
      fun flies => Nat.not_le_of_lt before flies.1
    rw [inFlight_append_singleton, admitted.full instant since before,
      Spell.isInFlight_of_start starts, decide_eq_false notYet]
    rfl

/-- At no instant more invocations are in flight than there are workers. -/
theorem inFlight_le (placed : Placed workers begun now finishes earlier) (instant : Nanos) :
    inFlight earlier instant ≤ workers := by
  rcases Nat.lt_or_ge instant begun with before | since
  · -- before the pool begins nothing is in flight, then all workers are busy, and at last some
    have none : inFlight earlier instant = 0 := by
      refine List.countP_eq_zero.2 fun spell member flies => ?_
      cases starts : spell.start with
      | none =>
        rw [Spell.isInFlight_of_idle starts] at flies
        exact absurd flies Bool.false_ne_true
      | some start =>
        rw [Spell.isInFlight_of_start starts, decide_eq_true_iff] at flies
        have since := (placed.started spell member start starts).1
        exact absurd (Nat.le_trans since flies.1) (Nat.not_le_of_lt before)
    rw [none]
    exact Nat.zero_le workers
  · rcases Nat.lt_or_ge instant now with past | present
    · exact Nat.le_of_eq (placed.full instant since past)
    · rw [placed.known instant present]
      refine Nat.le_trans ?_ placed.endingAfter_le
      exact List.countP_mono_left fun finish _ late =>
        decide_eq_true (Nat.lt_of_le_of_lt present (of_decide_eq_true late))

end Placed

/-! ### Whole schedules -/

section Schedule

variable {σ : Type} {workers : Nat} {begun now : Nanos} {finishes : List Nanos} {earlier : List Spell}

/-- The first spell of a schedule is admitted, and the rest is a schedule that goes on from what is known
then. -/
theorem scheduleFrom_cons (positive : 0 < workers)
    (placed : Placed workers begun now finishes earlier) (invocation : Invocation σ)
    (rest : List (Invocation σ)) (index : Nat) (state : σ) :
    ∃ spell now' finishes' state',
      (scheduleFrom workers begun now finishes index state (invocation :: rest)).spells =
        spell :: (scheduleFrom workers begun now' finishes' (index + 1) state' rest).spells ∧
      Placed workers begun now' finishes' (earlier ++ [spell]) ∧
      ∀ start, spell.start = some start → Admitted workers begun earlier start := by
  cases invocation with
  | unbuilt text =>
    refine ⟨⟨index, none, begun, .crashed text, []⟩, now, finishes, state, rfl,
      placed.unbuilt rfl, ?_⟩
    intro start starts
    exact absurd starts (by simp)
  | built work =>
    let done := work (freeAt workers now finishes) state
    let spell : Spell := ⟨index, some (freeAt workers now finishes), done.1.finish, done.1.ending,
      done.1.trace⟩
    -- it starts at the first instant at which a worker is free
    have starts : spell.start = some (freeAt workers now finishes) := rfl
    refine ⟨spell, _, _, done.2, rfl, placed.built positive starts, ?_⟩
    intro start same
    obtain rfl := Option.some.inj (starts.symm.trans same)
    exact placed.admits positive

/-- At no instant of a schedule more invocations are in flight than there are workers. -/
theorem inFlight_scheduleFrom_le (positive : 0 < workers)
    (placed : Placed workers begun now finishes earlier) (invocations : List (Invocation σ))
    (index : Nat) (state : σ) (instant : Nanos) :
    inFlight (earlier ++ (scheduleFrom workers begun now finishes index state invocations).spells)
      instant ≤ workers := by
  induction invocations generalizing now finishes index state earlier with
  | nil =>
    rw [show (scheduleFrom workers begun now finishes index state []).spells = [] from rfl,
      List.append_nil]
    exact placed.inFlight_le instant
  | cons invocation rest ih =>
    obtain ⟨spell, now', finishes', state', spells, next, -⟩ :=
      scheduleFrom_cons positive placed invocation rest index state
    have := ih next (index + 1) state'
    rwa [List.append_assoc, List.singleton_append, ← spells] at this

/-- Every invocation of a schedule that gets a worker gets it at the first instant at which one is free. -/
theorem admitted_of_getElem? (positive : 0 < workers)
    (placed : Placed workers begun now finishes earlier) (invocations : List (Invocation σ))
    (index : Nat) (state : σ) {place : Nat} {spell : Spell} {start : Nanos}
    (here : (scheduleFrom workers begun now finishes index state invocations).spells[place]? =
      some spell) (starts : spell.start = some start) :
    Admitted workers begun (earlier ++
      (scheduleFrom workers begun now finishes index state invocations).spells.take place) start := by
  -- the induction is on the invocations; what is known of those placed so far goes along in `placed`
  induction invocations generalizing now finishes index state earlier place with
  | nil => exact absurd here (by simp [scheduleFrom])
  | cons invocation rest ih =>
    obtain ⟨first, now', finishes', state', spells, next, admitted⟩ :=
      scheduleFrom_cons positive placed invocation rest index state
    rw [spells] at here ⊢
    cases place with
    | zero =>
      obtain rfl : first = spell := Option.some.inj here
      rw [List.take_zero, List.append_nil]
      exact admitted start starts
    | succ place =>
      have := ih next (index + 1) state' here
      rwa [List.append_assoc, List.singleton_append, ← List.take_succ_cons] at this

end Schedule

/-! ### What has an influence on the instants, and what has none -/

section Times

variable {σ : Type}

/-- When invocations with these spans get their workers, and when they end. -/
def timesFrom (workers : Nat) (now : Nanos) (finishes : List Nanos) :
    List Nanos → List (Nanos × Nanos)
  | [] => []
  | span :: rest =>
    let start := freeAt workers now finishes
    (start, start + span) ::
      timesFrom workers start ((start + span) :: busyAfter start finishes) rest

/-- When the invocations that got a worker got it, and when they ended, by index. -/
def times (spells : List Spell) : List (Nanos × Nanos) :=
  spells.filterMap fun spell => spell.start.map fun start => (start, spell.finish)

/-- The instants depend on the spans of those that need a worker and on nothing else. -/
theorem times_spells (workers : Nat) (begun now : Nanos) (finishes : List Nanos) (index : Nat)
    (state : σ) (behaviours : List Behaviour) :
    times (scheduleFrom workers begun now finishes index state
      (behaviours.map Behaviour.invocation)).spells =
      timesFrom workers now finishes (behaviours.filterMap Behaviour.span?) := by
  induction behaviours generalizing now finishes index with
  | nil => rfl
  | cons behaviour rest ih =>
    rw [List.map_cons]
    cases behaviour with
    | unbuilt text =>
      rw [spells_unbuilt]
      exact ih now finishes (index + 1)
    | lasting span ending steps =>
      rw [spells_lasting]
      let start := freeAt workers now finishes
      exact congrArg ((start, start + span) :: ·) (ih start _ (index + 1))

end Times

/-! ### The end of a pool -/

theorem le_finishOf (begun : Nanos) (spells : List Spell) :
    begun ≤ finishOf begun spells ∧ ∀ spell ∈ spells, spell.finish ≤ finishOf begun spells := by
  induction spells generalizing begun with
  | nil => exact ⟨Nat.le_refl begun, fun _ none => absurd none List.not_mem_nil⟩
  | cons first rest ih =>
    obtain ⟨base, rest⟩ := ih (max begun first.finish)
    refine ⟨Nat.le_trans (Nat.le_max_left _ _) base, fun spell member => ?_⟩
    rcases List.mem_cons.1 member with rfl | member
    · exact Nat.le_trans (Nat.le_max_right _ _) base
    · exact rest spell member

/-- A pool ends when it begins or when some invocation ends. -/
theorem finishOf_eq_or (begun : Nanos) (spells : List Spell) :
    finishOf begun spells = begun ∨ ∃ spell ∈ spells, spell.finish = finishOf begun spells := by
  induction spells generalizing begun with
  | nil => exact .inl rfl
  | cons first rest ih =>
    -- the latest instant so far is the beginning or the first end
    rcases ih (max begun first.finish) with base | ⟨spell, member, ends⟩
    · rcases Nat.le_total begun first.finish with later | earlier
      · right
        rw [Nat.max_eq_right later] at base
        refine ⟨first, List.mem_cons_self, ?_⟩
        rw [finishOf, List.foldl_cons, Nat.max_eq_right later]
        exact base.symm
      · left
        rw [Nat.max_eq_left earlier] at base
        rw [finishOf, List.foldl_cons, Nat.max_eq_left earlier]
        exact base
    · exact .inr ⟨spell, List.mem_cons_of_mem first member, ends⟩

theorem exists_finish_eq {begun : Nanos} {spells : List Spell} (nonempty : spells ≠ [])
    (later : ∀ spell ∈ spells, begun ≤ spell.finish) :
    ∃ spell ∈ spells, spell.finish = finishOf begun spells := by
  rcases finishOf_eq_or begun spells with base | last
  · obtain ⟨spell, member⟩ := List.exists_mem_of_ne_nil spells nonempty
    have latest := (le_finishOf begun spells).2 spell member
    rw [base] at latest ⊢
    exact ⟨spell, member, Nat.le_antisymm latest (later spell member)⟩
  · exact last

/-! ### The whole -/

/-- The spells with smaller indices are those before. -/
theorem filter_index_lt {spells : List Spell} {count : Nat}
    (numbered : spells.map (·.index) = List.range count) (index : Nat) :
    spells.filter (·.index < index) = spells.take index := by
  conv => lhs; rw [← List.take_append_drop index spells, List.filter_append]
  -- the indices in front are smaller, and those behind are not
  have before : (spells.take index).filter (·.index < index) = spells.take index := by
    refine List.filter_eq_self.2 fun spell member => decide_eq_true ?_
    have among := List.mem_map_of_mem (f := (·.index)) member
    rw [List.map_take, numbered, List.take_range] at among
    exact Nat.lt_of_lt_of_le (List.mem_range.1 among) (Nat.min_le_left _ _)
  have behind : (spells.drop index).filter (·.index < index) = [] := by
    refine List.filter_eq_nil_iff.2 fun spell member small => ?_
    have among := List.mem_map_of_mem (f := (·.index)) member
    rw [List.map_drop, numbered, List.range_eq_range', List.drop_range'] at among
    have := (List.mem_range'_1.1 among).1
    exact absurd (of_decide_eq_true small) (by omega)
  rw [before, behind, List.append_nil]

variable {σ : Type}

theorem workers_pos (requested : Nat) : 0 < workers requested :=
  Nat.lt_of_lt_of_le Nat.zero_lt_one (Nat.le_max_left _ _)

/-- No more invocations are in flight at once than are asked for. -/
theorem inFlight_run_le (requested : Nat) (begun : Nanos) (state : σ) (invocations : List (Invocation σ))
    (instant : Nanos) : inFlight (run requested begun state invocations).spells instant ≤ max 1 requested := by
  have bounded : inFlight (run requested begun state invocations).spells instant ≤ workers requested :=
    inFlight_scheduleFrom_le (workers_pos requested) (.initial _ begun) invocations 0 state instant
  have capped : min requested maxWorkers ≤ requested := Nat.min_le_left requested maxWorkers
  rw [workers] at bounded
  omega

/-- No invocation ends before the pool begins. -/
theorem begun_le_finish (requested : Nat) (begun : Nanos) (state : σ) (behaviours : List Behaviour) :
    ∀ spell ∈ (run requested begun state (behaviours.map Behaviour.invocation)).spells,
      begun ≤ spell.finish := by
  intro spell member
  obtain ⟨index, here⟩ := List.mem_iff_getElem?.1 member
  obtain ⟨behaviour, given⟩ : ∃ behaviour, behaviours[index]? = some behaviour := by
    have bound := (List.getElem?_eq_some_iff.1 here).1
    rw [run, schedule, length_spells, List.length_map] at bound
    exact ⟨behaviours[index], List.getElem?_eq_getElem bound⟩
  obtain ⟨start, spell'⟩ := getElem?_spells (workers requested) begun begun [] 0 state given
  obtain rfl := Option.some.inj (here.symm.trans spell')
  -- one that was not built ends as the pool begins
  cases behaviour with
  | unbuilt text => exact Nat.le_refl begun
  | lasting span ending steps =>
    have admitted := admitted_of_getElem? (workers_pos requested) (.initial _ begun) _ 0 state here rfl
    exact Nat.le_trans admitted.begun_le (Nat.le_add_right start span)

/-- **The workers are a bound, and none idles while somebody waits.** The number of workers is the requested
one between 1 and 2⁶¹ - 1. Never more invocations are in flight than that. Those that get a worker get it in
the order of their indices: at every instant before, as many of those with smaller indices are in flight as
there are workers, and at the instant itself fewer. One that breaks off while it is built never has a
worker. The instants depend on the spans of the others alone: not on how an invocation ends, nor on any that
is not built. The pool ends when the last of its invocations ends. -/
theorem run_keeps_workers_busy (requested : Nat) (begun : Nanos) (state : σ)
    (behaviours : List Behaviour) :
    let pool := run requested begun state (behaviours.map Behaviour.invocation)
    pool.workers = max 1 (min requested (Nat.pow 2 61 - 1)) ∧
    (∀ instant, inFlight pool.spells instant ≤ pool.workers) ∧
    (∀ (index : Nat) span ending steps, behaviours[index]? = some (.lasting span ending steps) →
      ∃ start,
        pool.spells[index]? =
          some ⟨index, some start, start + span, ending, steps.map (Step.later start)⟩ ∧
        begun ≤ start ∧
        (∀ spell ∈ pool.spells, spell.index < index →
          ∀ other, spell.start = some other → other ≤ start) ∧
        (∀ instant, begun ≤ instant → instant < start →
          inFlight (pool.spells.filter (·.index < index)) instant = pool.workers) ∧
        inFlight (pool.spells.filter (·.index < index)) start < pool.workers) ∧
    (∀ (index : Nat) text, behaviours[index]? = some (.unbuilt text) →
      pool.spells[index]? = some ⟨index, none, begun, .crashed text, []⟩) ∧
    (∀ behaviours' : List Behaviour,
      behaviours'.filterMap Behaviour.span? = behaviours.filterMap Behaviour.span? →
        times (run requested begun state (behaviours'.map Behaviour.invocation)).spells =
          times pool.spells) ∧
    (∀ spell ∈ pool.spells, spell.finish ≤ pool.finish) ∧
    (behaviours ≠ [] → ∃ spell ∈ pool.spells, spell.finish = pool.finish) ∧
    (behaviours = [] → pool.finish = begun) := by
  intro pool
  have positive := workers_pos requested
  -- before the first invocation nobody is placed, and the workers are free since the pool began
  have start : Placed (workers requested) begun begun [] [] := .initial _ begun
  have numbered := index_run_spells requested begun state (behaviours.map Behaviour.invocation)
  refine ⟨rfl, ?_, ?_, ?_, ?_, (le_finishOf begun pool.spells).2, ?_, ?_⟩
  · -- the bound
    intro instant
    exact inFlight_scheduleFrom_le positive start _ 0 state instant
  · intro index span ending steps here
    obtain ⟨start', spell⟩ := getElem?_spells (workers requested) begun begun [] 0 state here
    rw [Nat.zero_add] at spell
    have admitted := admitted_of_getElem? positive start _ 0 state spell rfl
    rw [List.nil_append] at admitted
    -- those with smaller indices are those placed before
    have below : pool.spells.filter (·.index < index) = pool.spells.take index :=
      filter_index_lt numbered index
    refine ⟨start', spell, admitted.begun_le, ?_, ?_, ?_⟩
    · intro other member smaller begins starts
      refine admitted.ordered other ?_ begins starts
      rw [show (scheduleFrom _ _ _ _ _ _ _).spells.take index = _ from below.symm]
      exact List.mem_filter.2 ⟨member, decide_eq_true smaller⟩
    · rw [below]
      exact admitted.full
    · rw [below]
      exact admitted.room
  · intro index text here
    obtain ⟨start', spell⟩ := getElem?_spells (workers requested) begun begun [] 0 state here
    rw [Nat.zero_add] at spell
    exact spell
  · intro behaviours' same
    have spans (given : List Behaviour) :
        times (run requested begun state (given.map Behaviour.invocation)).spells =
          timesFrom (workers requested) begun [] (given.filterMap Behaviour.span?) :=
      times_spells (workers requested) begun begun [] 0 state given
    rw [spans, same]
    exact (spans behaviours).symm
  · intro nonempty
    refine exists_finish_eq ?_ (begun_le_finish requested begun state behaviours)
    intro empty
    have length := congrArg List.length (numbered.symm.trans (congrArg _ empty))
    rw [List.length_range, List.length_map] at length
    exact nonempty (List.length_eq_zero_iff.1 length)
  · intro empty
    subst empty
    rfl

/-- A pool of so many invocations ends with the last of them, and at once if there are none. -/
theorem finish_run_list (requested : Nat) (begun : Nanos) (state : σ) (count : Nat) (behaviour : Nat → Behaviour) :
    let pool := run requested begun state ((Behaviour.list behaviour count).map Behaviour.invocation)
    (∀ spell ∈ pool.spells, spell.finish ≤ pool.finish) ∧
      (0 < count → ∃ spell ∈ pool.spells, spell.finish = pool.finish) ∧ (count = 0 → pool.finish = begun) := by
  obtain ⟨-, -, -, -, -, latest, last, none⟩ :=
    run_keeps_workers_busy requested begun state (Behaviour.list behaviour count)
  have length : (Behaviour.list behaviour count).length = count := Behaviour.length_list behaviour count
  refine ⟨latest, fun some => last ?_, fun empty => none ?_⟩
  · exact List.ne_nil_of_length_pos (length.symm ▸ some)
  · exact List.length_eq_zero_iff.1 (length.trans empty)

/-- **The bound, the order and the end of a pool.** Unless both the number of invocations and that of workers are out
of all proportion, a pool keeps its workers busy as `run_keeps_workers_busy` says, and it ends when the last of its
invocations ends. Otherwise it breaks off before any of them begins. -/
theorem launch_keeps_workers_busy (requested : Nat) (begun : Nanos) (state : σ) (count : Nat)
    (behaviour : Nat → Behaviour) :
    let launched := launch requested begun state count fun index => (behaviour index).invocation
    (count < 2 ^ 61 ∨ requested < 2 ^ 60 → ∃ pool, launched = .returned pool ∧
      pool.workers = max 1 (min requested (Nat.pow 2 61 - 1)) ∧
      (∀ instant, inFlight pool.spells instant ≤ pool.workers) ∧
      (∀ index < count, ∀ span ending steps, behaviour index = .lasting span ending steps → ∃ start,
        pool.spells[index]? =
          some ⟨index, some start, start + span, ending, steps.map (Step.later start)⟩ ∧
        begun ≤ start ∧
        (∀ spell ∈ pool.spells, spell.index < index →
          ∀ other, spell.start = some other → other ≤ start) ∧
        (∀ instant, begun ≤ instant → instant < start →
          inFlight (pool.spells.filter (·.index < index)) instant = pool.workers) ∧
        inFlight (pool.spells.filter (·.index < index)) start < pool.workers) ∧
      (∀ index < count, ∀ text, behaviour index = .unbuilt text →
        pool.spells[index]? = some ⟨index, none, begun, .crashed text, []⟩) ∧
      (∀ count' (behaviour' : Nat → Behaviour) pool',
        launch requested begun state count' (fun index => (behaviour' index).invocation) = .returned pool' →
        (Behaviour.list behaviour' count').filterMap Behaviour.span? =
          (Behaviour.list behaviour count).filterMap Behaviour.span? →
        times pool'.spells = times pool.spells) ∧
      (∀ spell ∈ pool.spells, spell.finish ≤ pool.finish) ∧
      (0 < count → ∃ spell ∈ pool.spells, spell.finish = pool.finish) ∧
      (count = 0 → pool.finish = begun)) ∧
    (2 ^ 61 ≤ count → 2 ^ 60 ≤ requested → launched = .crashed (some noChannel)) := by
  intro launched
  refine ⟨fun proportionate => ?_, fun many wide => ?_⟩
  · have channel : HasChannel requested count := hasChannel_iff.2 proportionate
    obtain ⟨number, bound, starts, unbuilt, same, -⟩ :=
      run_keeps_workers_busy requested begun state (Behaviour.list behaviour count)
    refine ⟨_, launch_behaviours channel begun state behaviour, number, bound, ?_, ?_, ?_,
      finish_run_list requested begun state count behaviour⟩
    · intro index within span ending steps isLasting
      exact starts index span ending steps (by rw [Behaviour.getElem?_list within, isLasting])
    · intro index within text isUnbuilt
      exact unbuilt index text (by rw [Behaviour.getElem?_list within, isUnbuilt])
    · -- another pool that returns is a run as well, so the spans decide for both
      intro count' behaviour' pool' returns' spans
      rw [launch_behaviours (launch_eq_returned_iff.1 returns').1] at returns'
      rw [← Ending.returned.inj returns']
      exact same _ spans
  · exact launch_of_excessive many wide

/-- With two workers the fourth invocation starts when the third has ended, and nobody waits for the first. -/
theorem launch_keeps_workers_busy_of_mixed :
    (6 < 2 ^ 61 ∨ 2 < 2 ^ 60) ∧
      ∃ pool, launch 2 0 () 6 (fun index => (mixed index).invocation) = .returned pool ∧ pool.workers = 2 ∧
        pool.spells[0]? = some ⟨0, none, 0, .crashed (some "no payload"), []⟩ ∧
        ∃ start, pool.spells[3]? = some ⟨3, some start, start + 3, .vanished, []⟩ ∧
          ∀ instant < start, inFlight (pool.spells.filter (·.index < 3)) instant = 2 := by
  have proportionate : 6 < 2 ^ 61 ∨ 2 < 2 ^ 60 := by decide
  obtain ⟨pool, returns, number, -, starts, unbuilt, -⟩ :=
    (launch_keeps_workers_busy 2 0 () 6 mixed).1 proportionate
  obtain ⟨start, spell, -, -, busy, -⟩ := starts 3 (by decide) 3 .vanished [] rfl
  have two : pool.workers = 2 := number.trans (by decide)
  refine ⟨proportionate, pool, returns, two, unbuilt 0 (by decide) (some "no payload") rfl, start, spell, ?_⟩
  exact fun instant before => (busy instant (Nat.zero_le instant) before).trans two

/-- All workers idle where there is no channel: a pool of 2⁶⁰ workers runs none of 2⁶¹ invocations. -/
theorem launch_keeps_workers_idle :
    0 < workers (2 ^ 60) ∧
      launch (2 ^ 60) 0 () (2 ^ 61) (fun _ => (Behaviour.lasting 1 .vanished).invocation) =
        .crashed (some noChannel) :=
  ⟨by decide, launch_of_not_hasChannel (by decide)⟩

end Pool

end ServiceProbe
