import Mathlib.Data.List.Forall2
import ServiceProbe.Proofs.Pool.WorkerBudget

/-!
# More workers

A pool with more workers runs no invocation later. Which worker an invocation gets may differ altogether from one
pool to the other, so the pools cannot be compared worker by worker. They can be compared at one instant: the one
at which an invocation starts in the pool with fewer workers. By then all those before it have started, in the
other pool no later, so whoever is in flight there still is in flight here, too. A worker is free here, hence there.

* `inFlight_le_of_sooner` — invocations run sooner are no more in flight, once all of them have started;
* `Admitted.start_le` — so the next one starts no later with more workers;
* `sooner_scheduleFrom` — and from this, one invocation after the other, each of a schedule;
* `run_sooner_with_more_workers` — the starts of a pool, and its end;
* `launch_sooner_with_more_workers` — so it is of pools of so many invocations, as long as there is a channel for the
  one with more workers.
-/

namespace ServiceProbe

/-- Of two runs of an invocation the first is not the later one: it needs no worker or got its worker no later, and
it ended no later. -/
structure Spell.Sooner (sooner later : Spell) : Prop where
  start_le : ∀ start, sooner.start = some start → ∃ start', later.start = some start' ∧ start ≤ start'
  finish_le : sooner.finish ≤ later.finish

namespace Spell.Sooner

variable {sooner later : Spell}

/-- Once the later run has started, it is in flight if the sooner one is. -/
theorem isInFlight (h : Sooner sooner later) {instant : Nanos}
    (started : ∀ start, later.start = some start → start ≤ instant)
    (flies : sooner.isInFlight instant = true) : later.isInFlight instant = true := by
  cases starts : sooner.start with
  | none =>
    rw [isInFlight_of_idle starts] at flies
    exact absurd flies Bool.false_ne_true
  | some start =>
    obtain ⟨start', starts', -⟩ := h.start_le start starts
    rw [isInFlight_of_start starts, decide_eq_true_iff] at flies
    rw [isInFlight_of_start starts', decide_eq_true_iff]
    exact ⟨started start' starts', Nat.lt_of_lt_of_le flies.2 h.finish_le⟩

end Spell.Sooner

/-- A behaviour that is begun no later is run no later. -/
theorem Behaviour.sooner_spell (behaviour : Behaviour) (begun : Nanos) (index : Nat) {start start' : Nanos}
    (h : start' ≤ start) : (behaviour.spell begun index start').Sooner (behaviour.spell begun index start) := by
  cases behaviour with
  | unbuilt text =>
    refine ⟨fun other starts => ?_, Nat.le_refl begun⟩
    cases starts
  | lasting span ending steps =>
    refine ⟨fun other starts => ⟨start, rfl, ?_⟩, Nat.add_le_add_right h span⟩
    obtain rfl := Option.some.inj starts
    exact h

namespace Pool

/-! ### One invocation -/

section Invocation

variable {workers workers' : Nat} {begun start start' : Nanos} {earlier earlier' : List Spell}

/-- Once all of some invocations have started, no more of them are in flight where they are run sooner. -/
theorem inFlight_le_of_sooner (sooner : List.Forall₂ Spell.Sooner earlier' earlier) {instant : Nanos}
    (started : ∀ spell ∈ earlier, ∀ start, spell.start = some start → start ≤ instant) :
    inFlight earlier' instant ≤ inFlight earlier instant := by
  induction sooner with
  | nil => exact Nat.le_refl _
  | @cons spell' spell rest' rest first _ ih =>
    have others : inFlight rest' instant ≤ inFlight rest instant :=
      ih fun other member => started other (List.mem_cons_of_mem spell member)
    -- whoever is still in flight sooner is in flight later as well
    have own : spell'.isInFlight instant = true → spell.isInFlight instant = true :=
      first.isInFlight (started spell List.mem_cons_self)
    rw [inFlight, inFlight, List.countP_cons, List.countP_cons]
    refine Nat.add_le_add others ?_
    split
    · next flies => exact Nat.le_of_eq (if_pos (own flies)).symm
    · exact Nat.zero_le _

/-- **One invocation.** Where those before it are run sooner, it starts no later with more workers. -/
theorem Admitted.start_le (admitted : Admitted workers begun earlier start)
    (admitted' : Admitted workers' begun earlier' start') (more : workers ≤ workers')
    (sooner : List.Forall₂ Spell.Sooner earlier' earlier) : start' ≤ start := by
  by_contra late
  have all : inFlight earlier' start = workers' :=
    admitted'.full start admitted.begun_le (Nat.lt_of_not_le late)
  have fewer : inFlight earlier' start ≤ inFlight earlier start := inFlight_le_of_sooner sooner admitted.ordered
  have room : inFlight earlier start < workers := admitted.room
  omega

end Invocation

/-! ### Whole schedules -/

section Schedule

variable {σ : Type} {workers workers' : Nat} {begun now now' : Nanos} {finishes finishes' : List Nanos}
  {earlier earlier' : List Spell}

/-- **All invocations.** Where those before it are run sooner, so is a whole schedule with more workers. -/
theorem sooner_scheduleFrom (positive : 0 < workers) (more : workers ≤ workers')
    (placed : Placed workers begun now finishes earlier) (placed' : Placed workers' begun now' finishes' earlier')
    (sooner : List.Forall₂ Spell.Sooner earlier' earlier) (index : Nat) (state : σ)
    (behaviours : List Behaviour) :
    List.Forall₂ Spell.Sooner
      (scheduleFrom workers' begun now' finishes' index state (behaviours.map Behaviour.invocation)).spells
      (scheduleFrom workers begun now finishes index state (behaviours.map Behaviour.invocation)).spells := by
  have positive' : 0 < workers' := Nat.lt_of_lt_of_le positive more
  -- the induction is on the behaviours; those placed so far go along with what is known of them
  induction behaviours generalizing now finishes earlier now' finishes' earlier' index with
  | nil => exact .nil
  | cons behaviour rest ih =>
    rw [List.map_cons]
    cases behaviour with
    | unbuilt text =>
      rw [spells_unbuilt, spells_unbuilt]
      have first := (Behaviour.unbuilt text).sooner_spell begun index (Nat.le_refl now)
      exact .cons first (ih (placed.unbuilt rfl) (placed'.unbuilt rfl)
        (List.rel_append sooner (.cons first .nil)) (index + 1))
    | lasting span ending steps =>
      rw [spells_lasting, spells_lasting]
      have le : freeAt workers' now' finishes' ≤ freeAt workers now finishes :=
        (placed.admits positive).start_le (placed'.admits positive') more sooner
      have first := (Behaviour.lasting span ending steps).sooner_spell begun index le
      exact .cons first (ih (placed.built positive rfl) (placed'.built positive' rfl)
        (List.rel_append sooner (.cons first .nil)) (index + 1))

end Schedule

/-! ### Whole pools -/

/-- Invocations that are run sooner have all ended no later. -/
theorem finishOf_le_of_sooner {begun begun' : Nanos} {spells spells' : List Spell} (h : begun' ≤ begun)
    (sooner : List.Forall₂ Spell.Sooner spells' spells) : finishOf begun' spells' ≤ finishOf begun spells := by
  induction sooner generalizing begun begun' with
  | nil => exact h
  | @cons spell' spell _ _ first _ ih =>
    have ends : max begun' spell'.finish ≤ max begun spell.finish :=
      Nat.max_le.2 ⟨Nat.le_trans h (Nat.le_max_left _ _), Nat.le_trans first.finish_le (Nat.le_max_right _ _)⟩
    exact ih ends

theorem workers_le_workers {requested requested' : Nat} (more : requested ≤ requested') :
    workers requested ≤ workers requested' := by
  rw [workers, workers]
  omega

variable {σ : Type}

/-- **More workers never slow a pool down.** Whatever the invocations do and however they end, each that needs a
worker gets it no later where more workers are asked for, and goes on in the same way from there; and the pool ends
no later. -/
theorem run_sooner_with_more_workers {requested requested' : Nat} (more : requested ≤ requested') (begun : Nanos)
    (state : σ) (behaviours : List Behaviour) :
    let pool := run requested begun state (behaviours.map Behaviour.invocation)
    let pool' := run requested' begun state (behaviours.map Behaviour.invocation)
    (∀ (index : Nat) span ending steps, behaviours[index]? = some (.lasting span ending steps) →
      ∃ start start', start' ≤ start ∧
        pool.spells[index]? =
          some ⟨index, some start, start + span, ending, steps.map (Step.later start)⟩ ∧
        pool'.spells[index]? =
          some ⟨index, some start', start' + span, ending, steps.map (Step.later start')⟩) ∧
      pool'.finish ≤ pool.finish := by
  intro pool pool'
  have sooner : List.Forall₂ Spell.Sooner pool'.spells pool.spells :=
    sooner_scheduleFrom (workers_pos requested) (workers_le_workers more) (.initial _ begun) (.initial _ begun)
      .nil 0 state behaviours
  refine ⟨fun index span ending steps here => ?_, finishOf_le_of_sooner (Nat.le_refl begun) sooner⟩
  obtain ⟨start, spell⟩ := getElem?_spells (workers requested) begun begun [] 0 state here
  obtain ⟨start', spell'⟩ := getElem?_spells (workers requested') begun begun [] 0 state here
  rw [Nat.zero_add] at spell spell'
  obtain ⟨bound, isSpell⟩ := List.getElem?_eq_some_iff.1 spell
  obtain ⟨bound', isSpell'⟩ := List.getElem?_eq_some_iff.1 spell'
  -- the two spells stand at one place, so they are compared with each other
  have compared := (List.forall₂_iff_get.1 sooner).2 index bound' bound
  rw [List.get_eq_getElem, List.get_eq_getElem] at compared
  rw [show pool.spells[index] = _ from isSpell, show pool'.spells[index] = _ from isSpell'] at compared
  obtain ⟨_, starts, le⟩ := compared.start_le start' rfl
  obtain rfl := Option.some.inj starts
  exact ⟨start, start', le, spell, spell'⟩

/-- **More workers and the channel.** Where more workers are asked for, and unless both their number and that of the
invocations are out of all proportion, both pools end, each invocation that needs a worker gets it no later, and the
pool ends no later. Otherwise the pool for which more workers are asked breaks off. -/
theorem launch_sooner_with_more_workers {requested requested' : Nat} (more : requested ≤ requested') (begun : Nanos)
    (state : σ) (count : Nat) (behaviour : Nat → Behaviour) :
    let launched (requested : Nat) := launch requested begun state count fun index => (behaviour index).invocation
    (count < 2 ^ 61 ∨ requested' < 2 ^ 60 → ∃ pool pool',
      launched requested = .returned pool ∧ launched requested' = .returned pool' ∧
      (∀ index < count, ∀ span ending steps, behaviour index = .lasting span ending steps →
        ∃ start start', start' ≤ start ∧
          pool.spells[index]? =
            some ⟨index, some start, start + span, ending, steps.map (Step.later start)⟩ ∧
          pool'.spells[index]? =
            some ⟨index, some start', start' + span, ending, steps.map (Step.later start')⟩) ∧
      pool'.finish ≤ pool.finish) ∧
    (2 ^ 61 ≤ count → 2 ^ 60 ≤ requested' → launched requested' = .crashed (some noChannel)) := by
  intro launched
  refine ⟨fun proportionate' => ?_, fun many wide => ?_⟩
  · have proportionate : count < 2 ^ 61 ∨ requested < 2 ^ 60 := proportionate'.imp_right (Nat.lt_of_le_of_lt more)
    obtain ⟨starts, finish⟩ := run_sooner_with_more_workers more begun state (Behaviour.list behaviour count)
    refine ⟨_, _, launch_behaviours (hasChannel_iff.2 proportionate) begun state behaviour,
      launch_behaviours (hasChannel_iff.2 proportionate') begun state behaviour, ?_, finish⟩
    intro index within span ending steps isLasting
    exact starts index span ending steps (by rw [Behaviour.getElem?_list within, isLasting])
  · exact launch_of_excessive many wide

/-- With a third worker all invocations that ever wait start sooner. -/
theorem launch_sooner_with_more_workers_of_three :
    let pool := run 2 0 () ((Behaviour.list mixed 6).map Behaviour.invocation)
    let pool' := run 3 0 () ((Behaviour.list mixed 6).map Behaviour.invocation)
    2 ≤ 3 ∧ times pool.spells = [(0, 6), (0, 2), (2, 5), (5, 9), (6, 7)] ∧
      times pool'.spells = [(0, 6), (0, 2), (0, 3), (2, 6), (3, 4)] ∧ pool'.finish ≤ pool.finish ∧
      ∃ start start', start' ≤ start ∧
        pool.spells[5]? = some ⟨5, some start, start + 1, .vanished, []⟩ ∧
        pool'.spells[5]? = some ⟨5, some start', start' + 1, .vanished, []⟩ := by
  intro pool pool'
  have proportionate : 6 < 2 ^ 61 ∨ 3 < 2 ^ 60 := by decide
  obtain ⟨first, second, returns, returns', starts, finish⟩ :=
    (launch_sooner_with_more_workers (show 2 ≤ 3 by decide) 0 () 6 mixed).1 proportionate
  obtain rfl : pool = first := Ending.returned.inj returns
  obtain rfl : pool' = second := Ending.returned.inj returns'
  exact ⟨by decide, rfl, rfl, finish, starts 5 (by decide) 1 .vanished [] rfl⟩

/-- With one worker 2⁶¹ invocations are run, and with 2⁶⁰ workers not one of them. -/
theorem launch_never_with_more_workers :
    1 ≤ 2 ^ 60 ∧
      (∃ pool, launch 1 0 () (2 ^ 61) (fun _ => (Behaviour.lasting 1 .vanished).invocation) = .returned pool) ∧
      launch (2 ^ 60) 0 () (2 ^ 61) (fun _ => (Behaviour.lasting 1 .vanished).invocation) =
        .crashed (some noChannel) :=
  ⟨by decide, ⟨_, launch_of_hasChannel (by decide)⟩, launch_of_not_hasChannel (by decide)⟩

end Pool

end ServiceProbe
