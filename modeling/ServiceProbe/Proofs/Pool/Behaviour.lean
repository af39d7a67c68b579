import Mathlib.Algebra.Group.Nat.Defs
import ServiceProbe.Proofs.Pool.Turns
import ServiceProbe.Proofs.Session.Later

/-!
# Invocations that keep to themselves

What an invocation does may depend on the instant at which it gets a worker and on the service it shares
with others. A `Behaviour` depends on neither: it says how long the invocation lasts, how it ends and what
it does on the way, all counted from the instant at which it gets its worker. `Behaviour.invocation` is the
invocation of a behaviour, and `Behaviour.outcome` the outcome that has to be reported for it.

A pool of such invocations fixes everything but the instants, so that its spells can be read off the
behaviours. `launch_behaviours` is the pool of a number of them, where there is a channel for it, `hasChannel_iff` says
when there is one, and `launch_of_excessive` is what becomes of it where there is none:

* `getElem?_spells` — the spell at an index is the one of the behaviour there, at some start;
* `Behaviour.outcome_spell` — and it has the outcome of the behaviour, at any start.
-/

namespace ServiceProbe

/-- What an invocation does by itself. -/
inductive Behaviour where
  /-- It breaks off while it is built. -/
  | unbuilt (text : Option String)
  /-- It ends a span after it got its worker. The instants of its steps are counted from then, too. -/
  | lasting (span : Nanos) (ending : InvocationEnd) (steps : List Step := [])

namespace Behaviour

variable {σ : Type}

/-- The invocation that behaves so, whatever instant and state it finds. -/
def invocation : Behaviour → Invocation σ
  | unbuilt text => .unbuilt text
  | lasting span ending steps =>
    .built fun start state => (⟨start + span, ending, steps.map (Step.later start)⟩, state)

/-- How long the invocation has a worker; one that breaks off while it is built never has one. -/
def span? : Behaviour → Option Nanos
  | unbuilt _ => none
  | lasting span _ _ => some span

/-- The outcome that has to be reported. A time in it is the one since the invocation got its worker. -/
def outcome : Behaviour → Outcome
  | unbuilt text => .transportError s!"invocation panicked: {text.getD unknownCrash}" 0
  | lasting _ (.returned (.ok outcome)) _ => outcome
  | lasting span (.returned (.error e)) _ => .transportError e.message span
  | lasting span (.crashed text) _ =>
    .transportError s!"invocation panicked: {text.getD unknownCrash}" span
  | lasting _ .vanished _ => .transportError "invocation did not report" 0

/-- The steps the invocation takes, counted from the instant at which it gets its worker. -/
def steps : Behaviour → List Step
  | unbuilt _ => []
  | lasting _ _ steps => steps

/-- The run of the invocation with an index, in a pool that began at `begun`, if it gets its worker at
`start`. -/
def spell (begun : Nanos) (index : Nat) (start : Nanos) : Behaviour → Spell
  | unbuilt text => ⟨index, none, begun, .crashed text, []⟩
  | lasting span ending steps =>
    ⟨index, some start, start + span, ending, steps.map (Step.later start)⟩

/-- The outcome does not depend on when the worker came: what counts is the time since then. -/
theorem outcome_spell (behaviour : Behaviour) (begun : Nanos) (index : Nat) (start : Nanos) :
    (behaviour.spell begun index start).outcome = behaviour.outcome := by
  cases behaviour with
  | unbuilt text => rfl
  | lasting span ending steps =>
    have elapsed : start + span - start = span := Nat.add_sub_cancel_left start span
    rcases ending with (e | outcome) | text | _
    · simp only [spell, Spell.outcome, Spell.reported?, Spell.elapsed, elapsed, Option.getD_some,
        outcome]
    · rfl
    · simp only [spell, Spell.outcome, Spell.reported?, Spell.elapsed, elapsed, Option.getD_some,
        outcome, unknownCrash]
    · rfl

end Behaviour

namespace Behaviour

variable (behaviour : Nat → Behaviour) (count : Nat)

/-- So many behaviours, by index. -/
def list : List Behaviour :=
  (List.range count).map behaviour

@[simp] theorem length_list : (list behaviour count).length = count := by
  rw [list, List.length_map, List.length_range]

variable {behaviour count}

theorem getElem?_list {index : Nat} (within : index < count) :
    (list behaviour count)[index]? = some (behaviour index) := by
  rw [list, List.getElem?_map, List.getElem?_range within]
  rfl

end Behaviour

namespace Pool

/-- There is a channel unless both numbers are out of all proportion. The channel has room for two reports of each
worker, so that the limit on the workers comes too late. -/
theorem hasChannel_iff {requested count : Nat} :
    HasChannel requested count ↔ count < 2 ^ 61 ∨ requested < 2 ^ 60 := by
  have permits : maxWorkers = 2 ^ 61 - 1 := by decide
  rw [HasChannel, capacity, workers, permits]
  omega

/-- Where both are, the pool breaks off. -/
theorem launch_of_excessive {σ : Type} {requested count : Nat} {begun : Nanos} {state : σ}
    {invocation : Nat → Invocation σ} (many : 2 ^ 61 ≤ count) (wide : 2 ^ 60 ≤ requested) :
    launch requested begun state count invocation = .crashed (some noChannel) := by
  refine launch_of_not_hasChannel (mt hasChannel_iff.1 ?_)
  omega

/-- The pool of so many behaviours, where there is a channel for it. -/
theorem launch_behaviours {σ : Type} {requested count : Nat} (channel : HasChannel requested count)
    (begun : Nanos) (state : σ) (behaviour : Nat → Behaviour) :
    launch requested begun state count (fun index => (behaviour index).invocation) =
      .returned (run requested begun state ((Behaviour.list behaviour count).map Behaviour.invocation)) := by
  rw [launch_of_hasChannel channel, Behaviour.list, List.map_map]
  rfl

variable {σ : Type} (workers : Nat) (begun now : Nanos) (finishes : List Nanos) (index : Nat)
  (state : σ)

/-! ### The spells of a schedule -/

theorem spells_unbuilt (text : Option String) (rest : List (Invocation σ)) :
    (scheduleFrom workers begun now finishes index state
      ((Behaviour.unbuilt text).invocation :: rest)).spells =
      (Behaviour.unbuilt text).spell begun index (freeAt workers now finishes) ::
        (scheduleFrom workers begun now finishes (index + 1) state rest).spells := rfl

theorem spells_lasting (span : Nanos) (ending : InvocationEnd) (steps : List Step)
    (rest : List (Invocation σ)) :
    (scheduleFrom workers begun now finishes index state
      ((Behaviour.lasting span ending steps).invocation :: rest)).spells =
      (Behaviour.lasting span ending steps).spell begun index (freeAt workers now finishes) ::
        (scheduleFrom workers begun (freeAt workers now finishes)
          ((freeAt workers now finishes + span) :: busyAfter (freeAt workers now finishes) finishes)
          (index + 1) state rest).spells := rfl

/-- The spell at an index is the one of the behaviour there. -/
theorem getElem?_spells {behaviours : List Behaviour} {place : Nat} {behaviour : Behaviour}
    (here : behaviours[place]? = some behaviour) :
    ∃ start, (scheduleFrom workers begun now finishes index state
      (behaviours.map Behaviour.invocation)).spells[place]? =
        some (behaviour.spell begun (index + place) start) := by
  have isInvocation : (behaviours.map Behaviour.invocation)[place]? = some (behaviour.invocation : Invocation σ) := by
    rw [List.getElem?_map, here, Option.map_some]
  obtain ⟨start, -, spell⟩ := getElem?_spells_turn workers begun now finishes index state isInvocation
  refine ⟨start, spell.trans ?_⟩
  -- the state that it meets has no say in what it does
  cases behaviour <;> rfl

end Pool

end ServiceProbe
