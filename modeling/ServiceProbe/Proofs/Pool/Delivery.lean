import Mathlib.Algebra.GroupWithZero.Nat
import Mathlib.Data.List.Induction
import Mathlib.Data.List.Nodup
import ServiceProbe.Pool.Handover

/-!
# Every report is delivered

The reports of a pool pass through a channel that holds only so many of them, and an invocation with a report
waits while there is no room. Two things keep this from coming to a standstill: an invocation gives its worker
back before it waits for room, and the collector takes reports out whatever the others do. So as long as the
collector has not seen the channel close, somebody can go on, and it need not be an invocation that dies.

An act of an invocation moves it along the stations. `Turn` is the table of these moves, and `Does` says what
an act needs and what it leaves; it is `step?` as a relation (`step?_eq_some_iff`). Everything else is read off
these two:

* `Sound` — the workers are all accounted for, and a report is among those that were taken out or are still in
  the channel once if its invocation has reported, and else not at all; every act keeps this (`Sound.step`);
* `Sound.exists_act` — in such a state the channel is closed or an act other than a death is possible;
* `remaining_lt` — every act leaves less to do, so no run goes on for ever;
* `run_delivers_reports` — the whole: no standstill, a bound on the length of a run, nobody who waits for room
  keeps a worker, and at the end the collector has what was sent, in that order, and it misses nobody but the
  dead.
-/

namespace ServiceProbe

namespace Station

/-- Its report went into the channel. -/
def hasReported : Station → Bool
  | reported => true
  | gone sent => sent
  | _ => false

/-- How many acts it has before it, if it does not die. A report counts for two, as it has to be sent and to be
taken out. -/
def remaining : Station → Nat
  | waiting => 6
  | working => 5
  | finished => 4
  | reporting => 3
  | reported => 1
  | gone _ => 0

theorem remaining_le (station : Station) : station.remaining ≤ 6 := by
  cases station with
  | waiting | working | finished | reporting | reported => decide
  | gone => exact Nat.zero_le 6

/-- The number of workers that it has. -/
def workers (station : Station) : Nat :=
  station.hasWorker.toNat

/-- Whoever is still there has reported only where it stands right behind its report. -/
theorem hasReported_of_isOpen {station : Station} (alive : station.isOpen = true) :
    station.hasReported = decide (station = .reported) := by
  cases station with
  | waiting | working | finished | reporting | reported => rfl
  | gone => cases alive

theorem add_workers (free : Nat) (station : Station) :
    free + station.workers = if station.hasWorker then free + 1 else free := by
  unfold workers
  cases station.hasWorker <;> rfl

end Station

namespace Handover

open Pool (capacity)

/-- The index of the report that an act sends. -/
def Act.sent? : Act → Option Nat
  | send index => some index
  | _ => none

/-! ### What an act does -/

/-- The acts of the invocation with an index, each with the stations it leads from and to. -/
inductive Turn (index : Nat) : Act → Station → Station → Prop where
  | acquire : Turn index (.acquire index) .waiting .working
  | finish : Turn index (.finish index) .working .finished
  | release : Turn index (.release index) .finished .reporting
  | send : Turn index (.send index) .reporting .reported
  | leave : Turn index (.leave index) .reported (.gone true)
  | die {station : Station} (alive : station.isOpen = true) :
      Turn index (.die index) station (.gone station.hasReported)

namespace Turn

variable {index : Nat} {act : Act} {old new : Station}

/-- Only those who are still there have turns. -/
theorem isOpen (turn : Turn index act old new) : old.isOpen = true := by
  cases turn with
  | acquire | finish | release | send | leave => rfl
  | die alive => exact alive

/-- A report is sent by the invocation that it is the report of. -/
theorem count_sent (turn : Turn index act old new) (other : Nat) :
    act.sent?.toList.count other = if other = index then act.sent?.toList.length else 0 := by
  cases turn with
  | acquire | finish | release | leave | die => exact (ite_self 0).symm
  | send =>
    by_cases same : other = index
    · rw [if_pos same, same]
      exact List.count_singleton_self
    · rw [if_neg same]
      exact List.count_eq_zero_of_not_mem fun member => same (List.mem_singleton.1 member)

/-- An invocation sends when it has not yet reported, and from then on it has. -/
theorem hasReported_add (turn : Turn index act old new) :
    new.hasReported.toNat = old.hasReported.toNat + act.sent?.toList.length := by
  cases turn <;> rfl

/-- A turn leaves less to do, even if a report that was sent has still to be taken out. -/
theorem remaining_lt (turn : Turn index act old new) :
    new.remaining + act.sent?.toList.length < old.remaining := by
  cases turn with
  | acquire | finish | release | send | leave => exact Nat.lt_add_one _
  | die alive =>
    cases old with
    | waiting | working | finished | reporting | reported => exact Nat.zero_lt_succ _
    | gone => cases alive

/-- Who goes on to be there has as many workers more as it takes in this turn, and as many fewer as it gives
back. -/
theorem count_takes (turn : Turn index act old new) (stays : new.isOpen = true) :
    [act].count (.acquire index) + old.workers = [act].count (.release index) + new.workers := by
  cases turn with
  | acquire | finish | release | send => simp [Station.workers, Station.hasWorker]
  | leave | die => cases stays

/-- Whatever one invocation does, the others take and give back nothing. -/
theorem count_takes_other (turn : Turn index act old new) {other : Nat} (h : other ≠ index) :
    [act].count (.acquire other) = [act].count (.release other) := by
  cases turn <;> simp [Ne.symm h]

/-- Nobody goes without a report, but for those who die. -/
theorem eq_die_of_silent (turn : Turn index act old (.gone false)) : act = .die index := by
  generalize ends : Station.gone false = new at turn
  cases turn with
  | acquire | finish | release | send | leave => cases ends
  | die alive => rfl

end Turn

/-- What an act needs and what it leaves: the turn of an invocation, for which there have to be a worker if it
takes one and room if it sends, or an act of the pool or the collector. -/
inductive Does (limit : Nat) (state : Handover) : Act → Handover → Prop where
  | turn {index : Nat} {act : Act} {old new : Station} (turn : Turn index act old new)
      (here : state.stations[index]? = some old) (staffed : new.workers ≤ state.free + old.workers)
      (room : act.sent? = some index → state.channel.length < limit) :
      Does limit state act
        { state.move index new with
          free := state.free + old.workers - new.workers
          channel := state.channel ++ act.sent?.toList }
  | letGo (own : state.hasOwnEnd = true) : Does limit state .letGo { state with hasOwnEnd := false }
  | receive {index : Nat} {rest : List Nat} (own : state.hasOwnEnd = false)
      (channel : state.channel = index :: rest) :
      Does limit state .receive { state with channel := rest, received := state.received ++ [index] }
  | close (own : state.hasOwnEnd = false) (seen : state.closed = false) (channel : state.channel = [])
      (left : ∀ station ∈ state.stations, station.isOpen = false) :
      Does limit state .close { state with closed := true }

section step

variable {limit : Nat} {state next : Handover} {act : Act}

private theorem does_of_step? (h : state.step? limit act = some next) : Does limit state act next := by
  -- an act of an invocation is a line of the table, which says in general what `step?` says of this act
  cases act with
  | acquire index =>
    obtain ⟨⟨here, free⟩, same⟩ := Option.ite_none_right_eq_some.1 h
    cases same
    have after : Does limit state _ _ := .turn .acquire here (Nat.le_add_right_of_le free) fun h => by cases h
    simpa [Station.workers, Station.hasWorker, Act.sent?, move] using after
  | finish index =>
    obtain ⟨here, same⟩ := Option.ite_none_right_eq_some.1 h
    cases same
    have after : Does limit state _ _ := .turn .finish here (Nat.le_add_left 1 _) fun h => by cases h
    simpa [Station.workers, Station.hasWorker, Act.sent?, move] using after
  | release index =>
    obtain ⟨here, same⟩ := Option.ite_none_right_eq_some.1 h
    cases same
    have after : Does limit state _ _ := .turn .release here (Nat.zero_le _) fun h => by cases h
    simpa [Station.workers, Station.hasWorker, Act.sent?, move] using after
  | send index =>
    obtain ⟨⟨here, room⟩, same⟩ := Option.ite_none_right_eq_some.1 h
    cases same
    have after : Does limit state _ _ := .turn .send here (Nat.zero_le _) fun _ => room
    simpa [Station.workers, Station.hasWorker, Act.sent?, move] using after
  | leave index =>
    obtain ⟨here, same⟩ := Option.ite_none_right_eq_some.1 h
    cases same
    have after : Does limit state _ _ := .turn .leave here (Nat.zero_le _) fun h => by cases h
    simpa [Station.workers, Station.hasWorker, Act.sent?, move] using after
  | die index =>
    rw [step?] at h
    split at h
    · next station here =>
      obtain ⟨alive, same⟩ := Option.ite_none_right_eq_some.1 h
      cases same
      have after : Does limit state _ _ := .turn (.die alive) here (Nat.zero_le _) fun h => by cases h
      -- who dies gives back the worker, if any, and has reported nothing
      rw [Station.add_workers, Station.hasReported_of_isOpen alive] at after
      simpa [Station.workers, Station.hasWorker, Act.sent?, move] using after
    · cases h
  | letGo =>
    obtain ⟨own, same⟩ := Option.ite_none_right_eq_some.1 h
    cases same
    exact .letGo own
  | receive =>
    rw [step?] at h
    split at h
    · next own channel =>
      cases h
      exact .receive own channel
    · cases h
  | close =>
    obtain ⟨⟨own, seen, channel, left⟩, same⟩ := Option.ite_none_right_eq_some.1 h
    cases same
    refine .close own seen channel fun station member => ?_
    simpa using List.all_eq_true.1 left station member

private theorem step?_of_does (h : Does limit state act next) : state.step? limit act = some next := by
  cases h with
  | @turn index act old new turn here staffed room =>
    -- the conditions of the act are those of its turn
    cases turn with
    | acquire =>
      have free : 0 < state.free := staffed
      simp [step?, here, free, Station.workers, Station.hasWorker, Act.sent?, move]
    | finish | release | leave =>
      simp [step?, here, Station.workers, Station.hasWorker, Act.sent?, move]
    | send =>
      simp [step?, here, room rfl, Station.workers, Station.hasWorker, Act.sent?, move]
    | die alive =>
      rw [Station.add_workers, Station.hasReported_of_isOpen alive]
      simp [step?, here, alive, Station.workers, Station.hasWorker, Act.sent?, move]
  | letGo own => simp [step?, own]
  | receive own channel => simp [step?, own, channel]
  | close own seen channel left => simpa [step?, own, seen, channel] using left

/-- **An act, as a relation.** -/
theorem step?_eq_some_iff : state.step? limit act = some next ↔ Does limit state act next :=
  ⟨does_of_step?, step?_of_does⟩

end step

/-! ### Sums over the stations -/

/-- A number for each station, added up. -/
def total (weight : Station → Nat) (stations : List Station) : Nat :=
  (stations.map weight).sum

/-- A move changes such a sum by what the two stations differ in. -/
theorem total_set (weight : Station → Nat) {stations : List Station} {index : Nat} {old : Station}
    (here : stations[index]? = some old) (new : Station) :
    total weight (stations.set index new) + weight old = total weight stations + weight new := by
  unfold total
  -- the number of the others stands on both sides
  induction stations generalizing index with
  | nil => cases here
  | cons first rest ih =>
    cases index with
    | zero =>
      obtain rfl : first = old := by simpa using here
      rw [List.set_cons_zero, List.map_cons, List.map_cons, List.sum_cons, List.sum_cons]
      omega
    | succ index =>
      have later := @ih index (by simpa using here)
      rw [List.set_cons_succ, List.map_cons, List.map_cons, List.sum_cons, List.sum_cons]
      omega

theorem total_le {weight : Station → Nat} {bound : Nat} (each : ∀ station, weight station ≤ bound)
    (stations : List Station) : total weight stations ≤ bound * stations.length := by
  induction stations with
  | nil => exact Nat.zero_le _
  | cons first rest ih =>
    have own := each first
    rw [total] at ih
    rw [total, List.map_cons, List.sum_cons, List.length_cons, Nat.mul_succ]
    omega

/-- A sum that is not zero has a station that is not zero. -/
theorem exists_of_total_pos {weight : Station → Nat} {stations : List Station}
    (h : 0 < total weight stations) :
    ∃ (index : Nat) (station : Station), stations[index]? = some station ∧ 0 < weight station := by
  induction stations with
  | nil => exact absurd h (Nat.lt_irrefl 0)
  | cons first rest ih =>
    by_cases own : 0 < weight first
    · exact ⟨0, first, rfl, own⟩
    · have later : 0 < total weight rest := by
        rw [total, List.map_cons, List.sum_cons] at h
        rw [total]
        omega
      obtain ⟨index, station, here, positive⟩ := ih later
      exact ⟨index + 1, station, here, positive⟩

/-! ### What every act keeps -/

/-- The number of times the report with an index has been sent, as far as its station tells. -/
def sendings (state : Handover) (index : Nat) : Nat :=
  (state.stations[index]?.map fun station => station.hasReported.toNat).getD 0

/-- A state in which nothing has been lost. -/
structure Sound (workers : Nat) (state : Handover) : Prop where
  /-- Each worker is free or with one invocation. -/
  staffed : state.free + total Station.workers state.stations = workers
  /-- A report has been taken out or is in the channel if it was sent, and only once. -/
  once : ∀ index, (state.received ++ state.channel).count index = state.sendings index
  /-- The channel closes when it is empty and nobody can put anything in. -/
  atEnd : state.closed = true →
    state.hasOwnEnd = false ∧ state.channel = [] ∧ ∀ station ∈ state.stations, station.isOpen = false

theorem sendings_le_one (state : Handover) (index : Nat) : state.sendings index ≤ 1 := by
  rw [sendings]
  cases state.stations[index]? with
  | none => exact Nat.zero_le 1
  | some station => exact Bool.toNat_le station.hasReported

/-- At the start an invocation holds its report or waits. -/
theorem fresh_start (workers count : Nat) (isUnbuilt : Nat → Bool) :
    ∀ station ∈ (start workers count isUnbuilt).stations, station = .reporting ∨ station = .waiting := by
  intro station member
  obtain ⟨index, -, rfl⟩ := List.mem_map.1 member
  by_cases unbuilt : isUnbuilt index
  · exact .inl (if_pos unbuilt)
  · exact .inr (if_neg unbuilt)

theorem sound_start (workers count : Nat) (isUnbuilt : Nat → Bool) :
    Sound workers (start workers count isUnbuilt) := by
  have fresh := fresh_start workers count isUnbuilt
  constructor
  case staffed =>
    -- whoever had a worker would be working or have finished
    have nobody : total Station.workers (start workers count isUnbuilt).stations = 0 := by
      by_contra some
      obtain ⟨index, station, here, positive⟩ := exists_of_total_pos (Nat.pos_of_ne_zero some)
      obtain rfl | rfl := fresh station (List.mem_of_getElem? here) <;> cases positive
    rw [nobody]
    rfl
  case once =>
    intro index
    rw [sendings]
    cases here : (start workers count isUnbuilt).stations[index]? with
    | none => rfl
    | some station => obtain rfl | rfl := fresh station (List.mem_of_getElem? here) <;> rfl
  case atEnd => nofun

section invariants

variable {workers limit : Nat} {state next : Handover} {act : Act}

/-- How the number of sendings of a report changes with a move. -/
theorem sendings_move {index : Nat} {old : Station} (here : state.stations[index]? = some old)
    (new : Station) (other : Nat) :
    (state.move index new).sendings other =
      if other = index then new.hasReported.toNat else state.sendings other := by
  rw [sendings, sendings, move]
  -- only the station that moved can say otherwise than before
  by_cases same : other = index
  · obtain ⟨bound, -⟩ := List.getElem?_eq_some_iff.1 here
    rw [if_pos same, same, List.getElem?_set_self bound]
    rfl
  · rw [if_neg same, List.getElem?_set_ne (Ne.symm same)]

/-- **Every act keeps account.** -/
theorem Sound.step (sound : Sound workers state) (h : Does limit state act next) :
    Sound workers next := by
  cases h with
  | @turn index _ old new turn here staffed room =>
    constructor
    case staffed =>
      -- what the free workers lose the station has, and the other way round
      have sum := total_set Station.workers here new
      have before := sound.staffed
      change state.free + old.workers - new.workers +
        total Station.workers (state.stations.set index new) = workers
      omega
    case once =>
      intro other
      -- the act is counted where it moves, and where the report that it sends goes
      have before := sound.once other
      have moved := sendings_move here new other
      change (state.received ++ (state.channel ++ act.sent?.toList)).count other =
        (state.move index new).sendings other
      rw [moved, ← List.append_assoc, List.count_append, before, turn.count_sent]
      by_cases same : other = index
      · rw [if_pos same, if_pos same, turn.hasReported_add, same, sendings, here]
        rfl
      · rw [if_neg same, if_neg same, Nat.add_zero]
    case atEnd =>
      intro closed
      -- nobody is left to have this turn
      obtain ⟨-, -, left⟩ := sound.atEnd closed
      have shut := left old (List.mem_of_getElem? here)
      rw [turn.isOpen] at shut
      cases shut
  | letGo own =>
    refine ⟨sound.staffed, sound.once, fun closed => ?_⟩
    -- the channel does not close while the pool has its own end
    have given := (sound.atEnd closed).1
    rw [own] at given
    cases given
  | @receive index rest own channel =>
    refine ⟨sound.staffed, fun other => ?_, fun closed => ?_⟩
    · have before := sound.once other
      -- what is taken out leaves the channel at its front and is received at the end
      rw [channel] at before
      change (state.received ++ [index] ++ rest).count other = state.sendings other
      rw [← before, List.append_assoc, List.singleton_append]
    · have empty := (sound.atEnd closed).2.1
      rw [channel] at empty
      cases empty
  | close own seen channel left => exact ⟨sound.staffed, sound.once, fun _ => ⟨own, channel, left⟩⟩

/-- Nothing happens once the channel is closed. -/
theorem Sound.not_does_of_closed (sound : Sound workers state) (closed : state.closed = true) :
    ¬ Does limit state act next := by
  obtain ⟨given, empty, left⟩ := sound.atEnd closed
  intro h
  -- each act wants something that is gone at the end
  cases h with
  | turn turn here staffed room =>
    have shut := left _ (List.mem_of_getElem? here)
    rw [turn.isOpen] at shut
    cases shut
  | letGo own =>
    rw [given] at own
    cases own
  | receive own channel =>
    rw [empty] at channel
    cases channel
  | close own seen channel shut =>
    rw [closed] at seen
    cases seen

/-! ### No standstill -/

/-- While the channel is empty an invocation that is still there can go on, with a worker if it needs one. -/
theorem exists_turn {index : Nat} {station : Station} (here : state.stations[index]? = some station)
    (alive : station.isOpen = true) (empty : state.channel = []) (room : 0 < limit)
    (ready : station = .waiting → 0 < state.free) :
    ∃ act next, (∀ index, act ≠ .die index) ∧ Does limit state act next := by
  -- wherever it stands, the next act of an open invocation is possible
  cases station with
  | waiting =>
    exact ⟨.acquire index, _, nofun, .turn .acquire here (Nat.le_add_right_of_le (ready rfl)) nofun⟩
  | working => exact ⟨.finish index, _, nofun, .turn .finish here (Nat.le_add_left 1 _) nofun⟩
  | finished => exact ⟨.release index, _, nofun, .turn .release here (Nat.zero_le _) nofun⟩
  | reporting =>
    have free : state.channel.length < limit := by
      rw [empty]
      exact room
    exact ⟨.send index, _, nofun, .turn .send here (Nat.zero_le _) fun _ => free⟩
  | reported => exact ⟨.leave index, _, nofun, .turn .leave here (Nat.zero_le _) nofun⟩
  | gone => cases alive

/-- **No standstill.** Until the channel is closed somebody can go on, and without dying. -/
theorem Sound.exists_act (sound : Sound workers state) (staffed : 0 < workers) (room : 0 < limit)
    (running : state.closed = false) :
    ∃ act next, (∀ index, act ≠ .die index) ∧ Does limit state act next := by
  -- letting go and taking out are possible whatever the invocations do, so they come first
  cases own : state.hasOwnEnd with
  | true => exact ⟨.letGo, _, nofun, .letGo own⟩
  | false =>
    cases channel : state.channel with
    | cons index rest => exact ⟨.receive, _, nofun, .receive own channel⟩
    | nil =>
      by_cases left : ∀ station ∈ state.stations, station.isOpen = false
      · exact ⟨.close, _, nofun, .close own running channel left⟩
      · obtain ⟨station, member, alive⟩ : ∃ station ∈ state.stations, station.isOpen = true := by
          simpa using left
        obtain ⟨index, here⟩ := List.mem_iff_getElem?.1 member
        by_cases free : 0 < state.free
        · exact exists_turn here alive channel room fun _ => free
        · -- no worker is free, so somebody has one, and whoever has one can go on
          have busy : 0 < total Station.workers state.stations := by
            have all := sound.staffed
            omega
          obtain ⟨other, holder, there, holds⟩ := exists_of_total_pos busy
          refine exists_turn there ?_ channel room ?_
          · cases holder with
            | waiting | working | finished | reporting | reported => rfl
            | gone => cases holds
          · rintro rfl
            cases holds

/-! ### No run goes on for ever -/

/-- How many acts are left at most. -/
def remaining (state : Handover) : Nat :=
  total Station.remaining state.stations + state.channel.length + state.hasOwnEnd.toNat +
    (!state.closed).toNat

/-- **Every act leaves less to do.** -/
theorem remaining_lt (h : Does limit state act next) : next.remaining < state.remaining := by
  cases h with
  | @turn index _ old new turn here staffed room =>
    -- a report that is sent makes the channel longer, and its invocation has so much less to do
    have sum := total_set Station.remaining here new
    have less := turn.remaining_lt
    change total Station.remaining (state.stations.set index new) +
      (state.channel ++ act.sent?.toList).length + state.hasOwnEnd.toNat + (!state.closed).toNat < _
    rw [List.length_append, remaining]
    omega
  | letGo own =>
    rw [remaining, remaining, own]
    exact Nat.add_lt_add_right (Nat.lt_succ_self _) _
  | @receive index rest own channel =>
    change total Station.remaining state.stations + rest.length + state.hasOwnEnd.toNat +
      (!state.closed).toNat < _
    rw [remaining, channel, List.length_cons]
    omega
  | close own seen channel left =>
    rw [remaining, remaining, seen]
    exact Nat.lt_succ_self _

theorem remaining_start_le (workers count : Nat) (isUnbuilt : Nat → Bool) :
    (start workers count isUnbuilt).remaining ≤ 6 * count + 2 := by
  have each := total_le Station.remaining_le (start workers count isUnbuilt).stations
  have length : (start workers count isUnbuilt).stations.length = count := by
    rw [start, List.length_map, List.length_range]
  rw [length] at each
  change total Station.remaining (start workers count isUnbuilt).stations + 0 + 1 + 1 ≤ _
  omega

end invariants

/-! ### Runs -/

/-- The state after some acts, if each of them is possible when its turn comes. -/
def run? (limit : Nat) (state : Handover) (acts : List Act) : Option Handover :=
  acts.foldlM (step? limit) state

section runs

variable {limit : Nat} {first final : Handover} {acts : List Act}

theorem run?_append_singleton {act : Act} :
    first.run? limit (acts ++ [act]) = some final ↔
      ∃ state, first.run? limit acts = some state ∧ Does limit state act final := by
  rw [run?, List.foldlM_append, Option.bind_eq_bind, Option.bind_eq_some_iff]
  refine exists_congr fun state => and_congr_right fun _ => ?_
  rw [← step?_eq_some_iff, List.foldlM_cons]
  simp

/-- What holds at first, and of a run with one more act if it holds without it, holds of every run. -/
theorem run_induction {motive : List Act → Handover → Prop} (empty : motive [] first)
    (step : ∀ acts state act next, motive acts state → Does limit state act next →
      motive (acts ++ [act]) next)
    (run : first.run? limit acts = some final) : motive acts final := by
  induction acts using List.reverseRecOn generalizing final with
  | nil =>
    obtain rfl : first = final := Option.some.inj run
    exact empty
  | append_singleton acts act ih =>
    obtain ⟨state, earlier, does⟩ := run?_append_singleton.1 run
    exact step acts state act final (ih earlier) does

/-- The reachable states are those that runs lead to. -/
theorem reachable_iff_run {workers count : Nat} {isUnbuilt : Nat → Bool} {state : Handover} :
    Reachable workers count isUnbuilt state ↔
      ∃ acts, (start workers count isUnbuilt).run? (capacity workers count) acts = some state := by
  constructor
  · intro reachable
    induction reachable with
    | start => exact ⟨[], rfl⟩
    | step act earlier possible ih =>
      obtain ⟨acts, run⟩ := ih
      exact ⟨acts ++ [act], run?_append_singleton.2 ⟨_, run, step?_eq_some_iff.1 possible⟩⟩
  · rintro ⟨acts, run⟩
    refine run_induction (motive := fun _ => Reachable workers count isUnbuilt) .start ?_ run
    exact fun _ _ act _ earlier does => .step act earlier (step?_eq_some_iff.2 does)

/-- Every run keeps account. -/
theorem sound_run {workers : Nat} (sound : Sound workers first) (run : first.run? limit acts = some final) :
    Sound workers final :=
  run_induction (motive := fun _ => Sound workers) sound (fun _ _ _ _ sound does => sound.step does) run

/-- A run is at most as long as what there was to do. -/
theorem length_add_remaining_le (run : first.run? limit acts = some final) :
    acts.length + final.remaining ≤ first.remaining := by
  refine run_induction (motive := fun acts state => acts.length + state.remaining ≤ first.remaining)
    (Nat.zero_add _ ▸ Nat.le_refl _) ?_ run
  intro acts state act next before does
  -- each act is one more and leaves less
  have less := remaining_lt does
  rw [List.length_append, List.length_singleton]
  omega

theorem length_stations_run (run : first.run? limit acts = some final) :
    final.stations.length = first.stations.length :=
  run_induction (motive := fun _ state => state.stations.length = first.stations.length) rfl
    (fun _ _ _ _ before does => (length_stations_step? (step?_eq_some_iff.2 does)).trans before) run

/-- Reports are taken out in the order in which they were sent, and those not yet taken out are in the
channel. -/
theorem received_append_channel (run : first.run? limit acts = some final) :
    final.received ++ final.channel = first.received ++ first.channel ++ acts.filterMap Act.sent? := by
  refine run_induction
    (motive := fun acts state =>
      state.received ++ state.channel = first.received ++ first.channel ++ acts.filterMap Act.sent?)
    (List.append_nil _).symm ?_ run
  intro acts state act next before does
  rw [List.filterMap_append, ← List.append_assoc, ← before]
  cases does with
  | turn turn here staffed room =>
    -- a turn sends at most one report, to the end of the channel
    rw [List.append_assoc]
    cases sent : act.sent? <;> simp [sent]
  | receive own channel => simp [channel, Act.sent?]
  | letGo | close => exact (List.append_nil _).symm

/-- Who is gone without a report has died. -/
theorem die_mem_of_silent {index : Nat} (present : ∀ station ∈ first.stations, station.isOpen = true)
    (run : first.run? limit acts = some final)
    (silent : final.stations[index]? = some (.gone false)) : .die index ∈ acts := by
  refine run_induction
    (motive := fun acts state => state.stations[index]? = some (.gone false) → .die index ∈ acts)
    ?_ ?_ run silent
  · intro silent
    cases present _ (List.mem_of_getElem? silent)
  · intro acts state act next before does silent
    cases does with
    | @turn own _ old new turn here staffed room =>
      -- either this turn made it silent, or it was silent before
      by_cases same : own = index
      · obtain rfl := same
        obtain ⟨bound, -⟩ := List.getElem?_eq_some_iff.1 here
        obtain rfl : new = .gone false :=
          Option.some.inj ((List.getElem?_set_self bound).symm.trans silent)
        exact List.mem_append_right _ (List.mem_singleton.2 turn.eq_die_of_silent.symm)
      · have still := (List.getElem?_set_ne same).symm.trans silent
        exact List.mem_append_left _ (before still)
    | letGo | receive | close => exact List.mem_append_left _ (before silent)

/-- Who is still there has given back the workers that it took, but for the one it has. -/
theorem count_acquire {index : Nat} {station : Station}
    (nobody : ∀ station ∈ first.stations, station.workers = 0)
    (run : first.run? limit acts = some final) (here : final.stations[index]? = some station)
    (alive : station.isOpen = true) :
    acts.count (.acquire index) = acts.count (.release index) + station.workers := by
  refine run_induction
    (motive := fun acts state => ∀ station, state.stations[index]? = some station →
      station.isOpen = true →
        acts.count (.acquire index) = acts.count (.release index) + station.workers)
    ?_ ?_ run station here alive
  · intro station here alive
    rw [nobody station (List.mem_of_getElem? here)]
    rfl
  · intro acts state act next before does station here alive
    rw [List.count_append, List.count_append]
    cases does with
    | @turn own _ old new turn there staffed room =>
      -- the balance of an invocation changes with its own turns only
      by_cases same : own = index
      · obtain rfl := same
        obtain ⟨bound, -⟩ := List.getElem?_eq_some_iff.1 there
        obtain rfl : new = station := Option.some.inj ((List.getElem?_set_self bound).symm.trans here)
        have balance := turn.count_takes alive
        have earlier := before old there turn.isOpen
        omega
      · have earlier := before station ((List.getElem?_set_ne same).symm.trans here) alive
        have others := turn.count_takes_other (Ne.symm same)
        omega
    | letGo | receive | close => exact before station here alive

end runs

/-! ### The whole -/

/-- **No standstill, no endless run, no loss.** Take any number of invocations that the channel can be made
for, any number of workers and any order of acts. The channel has room for at least one report. Until the
collector has seen it close somebody can go on, and without dying; no run has more than six acts for each
invocation and two more. The workers are all accounted for, and an invocation that waits for room in the
channel has given back every worker that it took. When the channel is closed nothing else happens, and the
collector has exactly the reports that were sent, in that order, each once; none is missing but of those who
died. -/
theorem run_delivers_reports (requested count : Nat) (isUnbuilt : Nat → Bool) (nonempty : 1 ≤ count)
    (within : count ≤ Pool.maxWorkers) :
    let workers := Pool.workers requested
    let limit := capacity workers count
    (0 < limit ∧ limit ≤ Pool.maxWorkers) ∧
    ∀ acts state, (start workers count isUnbuilt).run? limit acts = some state →
      (state.closed = true ∨
        ∃ act next, (∀ index, act ≠ .die index) ∧ state.step? limit act = some next) ∧
      acts.length ≤ 6 * count + 2 ∧
      (state.free + total Station.workers state.stations = workers ∧
        ∀ index : Nat, state.stations[index]? = some .reporting → limit ≤ state.channel.length →
          acts.count (.acquire index) = acts.count (.release index)) ∧
      (state.closed = true →
        (∀ act, state.step? limit act = none) ∧
        state.received = acts.filterMap Act.sent? ∧ state.received.Nodup ∧
        ∀ index < count, index ∈ state.received ∨ .die index ∈ acts) := by
  intro workers limit
  have staffed : 0 < workers := Nat.le_max_left 1 _
  have room : 0 < limit := Nat.lt_min.2 ⟨nonempty, by omega⟩
  refine ⟨⟨room, Nat.le_trans (Nat.min_le_left _ _) within⟩, fun acts state run => ?_⟩
  have sound : Sound workers state := sound_run (sound_start workers count isUnbuilt) run
  have fresh := fresh_start workers count isUnbuilt
  refine ⟨?_, ?_, ⟨sound.staffed, ?_⟩, ?_⟩
  · -- no standstill: while the channel is open there is an act for somebody
    by_cases running : state.closed = true
    · exact .inl running
    · obtain ⟨act, next, alive, does⟩ :=
        sound.exists_act staffed room (Bool.eq_false_iff.2 running)
      exact .inr ⟨act, next, alive, step?_eq_some_iff.2 does⟩
  · -- no endless run: at the start there is so much to do, and each act takes of it
    have bound := length_add_remaining_le run
    have most := remaining_start_le workers count isUnbuilt
    omega
  · -- who waits for room has a report, and with a report nobody has a worker
    intro index blocked _
    refine count_acquire (fun station member => ?_) run blocked rfl
    obtain rfl | rfl := fresh station member <;> rfl
  · -- no loss: the channel closes empty, with everybody gone
    intro closed
    obtain ⟨-, empty, left⟩ := sound.atEnd closed
    have sent : state.received = acts.filterMap Act.sent? := by
      have all := received_append_channel run
      rwa [empty, List.append_nil] at all
    refine ⟨fun act => ?_, sent, ?_, ?_⟩
    · cases possible : state.step? limit act with
      | none => rfl
      | some next => exact absurd (step?_eq_some_iff.1 possible) (sound.not_does_of_closed closed)
    · -- nothing is left in the channel, so what was counted there was taken out
      rw [List.nodup_iff_count_le_one]
      intro index
      have once := sound.once index
      rw [empty, List.append_nil] at once
      rw [once]
      exact sendings_le_one state index
    · -- everybody is gone, and the station tells whether with a report
      intro index within
      have length : state.stations.length = count := by
        rw [length_stations_run run, start, List.length_map, List.length_range]
      have here := List.getElem?_eq_getElem (length ▸ within : index < state.stations.length)
      generalize state.stations[index] = station at here
      have shut := left station (List.mem_of_getElem? here)
      have once := sound.once index
      rw [empty, List.append_nil, sendings, here] at once
      cases station with
      | waiting | working | finished | reporting | reported => cases shut
      | gone sent =>
        cases sent with
        | true =>
          refine .inl (List.count_pos_iff.1 ?_)
          rw [once]
          exact Nat.one_pos
        | false =>
          refine .inr (die_mem_of_silent (fun station member => ?_) run here)
          obtain rfl | rfl := fresh station member <;> rfl

/-- Three invocations with one worker, where two reports fill the channel and the third invocation dies while it
waits for room. -/
theorem run_delivers_reports_past_death :
    let acts : List Act :=
      [.acquire 0, .finish 0, .release 0, .send 0, .acquire 1, .finish 1, .release 1, .send 1,
        .acquire 2, .finish 2, .release 2, .die 2, .letGo, .leave 0, .receive, .leave 1, .receive, .close]
    let final : Handover :=
      { stations := [.gone true, .gone true, .gone false], free := 1, hasOwnEnd := false,
        received := [0, 1], closed := true }
    (1 ≤ 3 ∧ 3 ≤ Pool.maxWorkers) ∧
    (start (Pool.workers 0) 3 fun _ => false).run? (capacity (Pool.workers 0) 3) acts = some final ∧
    final.received = acts.filterMap Act.sent? ∧ ∀ index < 3, index ∈ final.received ∨ .die index ∈ acts := by
  intro acts final
  have bounds : 1 ≤ 3 ∧ 3 ≤ Pool.maxWorkers := by decide
  have run : (start (Pool.workers 0) 3 fun _ => false).run? (capacity (Pool.workers 0) 3) acts =
      some final := by decide
  obtain ⟨-, runs⟩ := run_delivers_reports 0 3 (fun _ => false) bounds.1 bounds.2
  obtain ⟨-, -, -, atEnd⟩ := runs acts final run
  obtain ⟨-, sent, -, all⟩ := atEnd rfl
  exact ⟨bounds, run, sent, all⟩

end Handover

end ServiceProbe
