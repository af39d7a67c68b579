import ServiceProbe.Pool.Schedule

/-!
# How reports are handed over

The invocations of a pool run side by side and share two things: the workers, and a channel for their
reports. An invocation waits for a worker, works, gives the worker back, puts its report into the channel
as soon as there is room, and lets go of the channel; it may also die anywhere on the way, and then both
its worker and its end of the channel are free. One that broke off while it was built starts with its
report. The pool lets go of its own end of the channel once all invocations are on their way. From then on
a collector takes the reports out, and it sees the channel close when it is empty and nobody can put
anything in any more.

`Handover.step?` is one act of one of them, and every order of acts is a run. A schedule of a pool fixes
when invocations work; here only the order matters, and nothing is said about time.
-/

namespace ServiceProbe

/-- Where an invocation stands. -/
inductive Station where
  /-- It waits for a worker. -/
  | waiting
  /-- It works, with a worker. -/
  | working
  /-- Its work has ended, and the worker is still its own. -/
  | finished
  /-- It has no worker and holds its report. -/
  | reporting
  /-- Its report went into the channel. -/
  | reported
  /-- It has let go of the channel, with or without having reported. -/
  | gone (hasReported : Bool)
deriving DecidableEq

namespace Station

/-- The invocation has a worker. -/
def hasWorker : Station → Bool
  | working => true
  | finished => true
  | _ => false

/-- The invocation can still put something into the channel. -/
def isOpen : Station → Bool
  | gone _ => false
  | _ => true

end Station

/-- The state of a pool between two acts. -/
structure Handover where
  /-- The invocations, by index. -/
  stations : List Station
  /-- The workers that nobody has. -/
  free : Nat
  /-- The reports in the channel, by the index of their invocation, the oldest first. -/
  channel : List Nat := []
  /-- The pool still has its own end of the channel. -/
  hasOwnEnd : Bool := true
  /-- What the collector has taken out, in that order. -/
  received : List Nat := []
  /-- The collector has seen the channel close. -/
  closed : Bool := false
deriving DecidableEq

namespace Handover

/-- One act: of the invocation with an index, of the pool itself, or of the collector. -/
inductive Act where
  | acquire (index : Nat)
  | finish (index : Nat)
  | release (index : Nat)
  | send (index : Nat)
  | leave (index : Nat)
  | die (index : Nat)
  | letGo
  | receive
  | close
deriving DecidableEq

/-- The state at the start; `isUnbuilt` tells which invocations broke off while they were built. -/
def start (workers count : Nat) (isUnbuilt : Nat → Bool) : Handover where
  stations := (List.range count).map fun index => if isUnbuilt index then .reporting else .waiting
  free := workers

/-- The state with an invocation at another station. -/
def move (state : Handover) (index : Nat) (station : Station) : Handover :=
  { state with stations := state.stations.set index station }

/-- The state after an act, if the act is possible. A channel holds at most `capacity` reports. -/
def step? (capacity : Nat) (state : Handover) : Act → Option Handover
  | .acquire index =>
    if state.stations[index]? = some .waiting ∧ 0 < state.free then
      some { state.move index .working with free := state.free - 1 }
    else none
  | .finish index =>
    if state.stations[index]? = some .working then some (state.move index .finished) else none
  | .release index =>
    -- the worker is given back before the report is handed over
    if state.stations[index]? = some .finished then
      some { state.move index .reporting with free := state.free + 1 }
    else none
  | .send index =>
    if state.stations[index]? = some .reporting ∧ state.channel.length < capacity then
      some { state.move index .reported with channel := state.channel ++ [index] }
    else none
  | .leave index =>
    if state.stations[index]? = some .reported then some (state.move index (.gone true)) else none
  | .die index =>
    match state.stations[index]? with
    | some station =>
      if station.isOpen then
        let left := state.move index (.gone (decide (station = .reported)))
        some { left with free := if station.hasWorker then state.free + 1 else state.free }
      else none
    | none => none
  | .letGo => if state.hasOwnEnd then some { state with hasOwnEnd := false } else none
  | .receive =>
    match state.hasOwnEnd, state.channel with
    | false, index :: rest =>
      some { state with channel := rest, received := state.received ++ [index] }
    | _, _ => none
  | .close =>
    if state.hasOwnEnd = false ∧ state.closed = false ∧ state.channel = [] ∧
        state.stations.all (fun station => !station.isOpen) then
      some { state with closed := true }
    else none

/-- The states that some order of acts leads to. -/
inductive Reachable (workers count : Nat) (isUnbuilt : Nat → Bool) : Handover → Prop where
  | start : Reachable workers count isUnbuilt (start workers count isUnbuilt)
  | step {state next : Handover} (act : Act) (earlier : Reachable workers count isUnbuilt state)
      (possible : state.step? (Pool.capacity workers count) act = some next) :
      Reachable workers count isUnbuilt next

/-! ### Small facts -/

@[simp] theorem channel_move (state : Handover) (index : Nat) (station : Station) :
    (state.move index station).channel = state.channel :=
  rfl

@[simp] theorem received_move (state : Handover) (index : Nat) (station : Station) :
    (state.move index station).received = state.received :=
  rfl

/-- No act adds or removes an invocation. -/
theorem length_stations_step? {limit : Nat} {state next : Handover} {act : Act}
    (possible : state.step? limit act = some next) :
    next.stations.length = state.stations.length := by
  cases act <;> simp only [step?] at possible <;> (repeat' split at possible) <;>
    simp_all [move] <;> subst possible <;> simp

end Handover

end ServiceProbe
