import Mathlib.Data.Nat.Find
import ServiceProbe.Session.Service
import ServiceProbe.Task.Polling

/-!
# The course of a poll

While a task is polled its service meets nothing but status requests for that task. So the replies can be
numbered in advance, and a `Course` is a poll with its replies. It says when each attempt begins
(`Course.turn`) and whether the poll ends with it (`Course.stop?`), and both are statements about numbers,
not about the loop.

* `Course.exists_stopsAt` — a poll ends with some attempt, within its budget;
* `Course.StopsAt.unique` — and with one only;
* `Course.StopsAt.within_limit`, `Course.exhausted_of_not_due` — the budget allows for the requests that are
  made and, where a poll gives up, for no more;
* `Course.StopsAt.run_poll` — the run of a poll against a service whose replies are those of the course;
* `Polling.exists_run_poll` — a poll against any service is run as such a course.
-/

namespace ServiceProbe

/-- The state of a service after so many status requests for a task and nothing else. -/
def Service.afterChecks {σ : Type} (service : Service σ) (handle : Handle) (state : σ) : Nat → σ
  | 0 => state
  | made + 1 => (service.check (service.afterChecks handle state made) handle.endpoint handle.id).2

/-! ### Attempts by number -/

/-- A poll that begins at an instant, with the replies to its status requests. -/
structure Course where
  polling : Polling
  handle : Handle
  begun : Nanos
  replies : Nat → Reply Snapshot

/-- How an attempt ends a poll. -/
inductive Course.Stop where
  /-- The budget has run out, and no request is made. -/
  | givesUp
  | breaksOff (text : String)
  | decides (decision : Decision)

/-- The requests that are made in the attempt which ends the poll. -/
def Course.Stop.spends : Course.Stop → Nat
  | givesUp => 0
  | breaksOff _ => 1
  | decides _ => 1

namespace Course

/-- The instant at which the attempt with a number begins: each one before it took an interval and the time
of its reply. -/
def turn (course : Course) : Nat → Nanos
  | 0 => course.begun
  | number + 1 => course.turn number + course.polling.interval + (course.replies number).delay

/-- The time since the submission at which the attempt with a number begins. -/
def elapsed (course : Course) (number : Nat) : Nanos :=
  course.turn number - course.handle.submitted

/-- The budget allows for the attempt with a number. -/
def isDue (course : Course) (number : Nat) : Bool :=
  decide (number < course.polling.maxAttempts) && !course.polling.isExhausted (course.elapsed number)

/-- How the attempt with a number ends the poll, if it does. -/
def stop? (course : Course) (number : Nat) : Option Stop :=
  if course.isDue number then
    match (course.replies number).answer with
    | .crashes text => some (.breaksOff text)
    | .returns answer => (Decision.of? answer).map Stop.decides
  else some .givesUp

/-- The status request of the attempt with a number. -/
def request (course : Course) (number : Nat) : Step :=
  .call (.check course.handle.endpoint course.handle.id) (course.turn number + course.polling.interval)

/-- The status requests of so many attempts from a number on. -/
def requests (course : Course) (first count : Nat) : List Step :=
  (List.range' first count).map course.request

/-- **The end of a poll.** The attempt with this number is the one that ends it. -/
structure StopsAt (course : Course) (last : Nat) (stop : Stop) : Prop where
  goesOn : ∀ number < last, course.stop? number = none
  stops : course.stop? last = some stop

variable {course : Course} {number last : Nat} {stop : Stop}

theorem isDue_iff :
    course.isDue number = true ↔
      number < course.polling.maxAttempts ∧
        course.polling.isExhausted (course.elapsed number) = false := by
  rw [isDue, Bool.and_eq_true, decide_eq_true_eq, Bool.not_eq_true']

theorem stop?_eq_none_iff :
    course.stop? number = none ↔
      course.isDue number = true ∧
        ∃ answer, (course.replies number).answer = .returns answer ∧ Decision.of? answer = none := by
  unfold stop?
  split
  · next due =>
    cases (course.replies number).answer with
    | returns answer => simp [due]
    | crashes text => simp
  · next late => simp [late]

theorem stop?_eq_givesUp_iff :
    course.stop? number = some .givesUp ↔ course.isDue number = false := by
  unfold stop?
  split
  · next due =>
    cases (course.replies number).answer with
    | returns answer => simp [due]
    | crashes text => simp [due]
  · next late => simp [late]

theorem stop?_eq_decides_iff {decision : Decision} :
    course.stop? number = some (.decides decision) ↔
      course.isDue number = true ∧
        ∃ answer, (course.replies number).answer = .returns answer ∧
          Decision.of? answer = some decision := by
  unfold stop?
  split
  · next due =>
    cases (course.replies number).answer with
    | returns answer => simp [due]
    | crashes text => simp
  · next late => simp [late]

theorem stop?_eq_breaksOff_iff {text : String} :
    course.stop? number = some (.breaksOff text) ↔
      course.isDue number = true ∧ (course.replies number).answer = .crashes text := by
  unfold stop?
  split
  · next due =>
    cases (course.replies number).answer with
    | returns answer => simp
    | crashes text => simp [due]
  · next late => simp [late]

/-- A poll ends, at the latest when its attempts are used up. -/
theorem exists_stopsAt (course : Course) :
    ∃ last stop, last ≤ course.polling.maxAttempts ∧ course.StopsAt last stop := by
  -- no attempt is left at that number
  have ends : course.stop? course.polling.maxAttempts ≠ none := by
    rw [Ne, stop?_eq_none_iff, isDue_iff]
    exact fun h => absurd h.1.1 (Nat.lt_irrefl _)
  have some : ∃ number, course.stop? number ≠ none := ⟨_, ends⟩
  obtain ⟨stop, stops⟩ := Option.ne_none_iff_exists'.1 (Nat.find_spec some)
  refine ⟨Nat.find some, stop, Nat.find_min' some ends, fun number before => ?_, stops⟩
  exact not_not.1 (Nat.find_min some before)

/-- Only one attempt ends a poll. -/
theorem StopsAt.unique {last' : Nat} {stop' : Stop} (h : course.StopsAt last stop)
    (h' : course.StopsAt last' stop') : last = last' ∧ stop = stop' := by
  have same : last = last' := by
    rcases Nat.lt_trichotomy last last' with before | same | after
    · exact absurd (h'.goesOn last before) (by simp [h.stops])
    · exact same
    · exact absurd (h.goesOn last' after) (by simp [h'.stops])
  subst same
  exact ⟨rfl, Option.some.inj (h.stops.symm.trans h'.stops)⟩

/-- The attempts before the one that ends a poll are within the limit on the time, if there is one. -/
theorem StopsAt.within_limit (h : course.StopsAt last stop) (made : number < last + stop.spends) :
    number < course.polling.maxAttempts ∧
      ∀ limit, course.polling.maxWait = some limit →
        course.elapsed number + course.polling.interval ≤ limit := by
  have due : course.isDue number = true := by
    rcases Nat.lt_or_ge number last with before | there
    · exact (stop?_eq_none_iff.1 (h.goesOn number before)).1
    · -- the attempt that ends the poll makes a request, so it was due as well
      have stops := h.stops
      cases stop with
      | givesUp => exact absurd made (Nat.not_lt.2 there)
      | breaksOff text =>
        obtain rfl : number = last := Nat.le_antisymm (Nat.le_of_lt_succ made) there
        exact (stop?_eq_breaksOff_iff.1 stops).1
      | decides decision =>
        obtain rfl : number = last := Nat.le_antisymm (Nat.le_of_lt_succ made) there
        exact (stop?_eq_decides_iff.1 stops).1
  obtain ⟨within, inTime⟩ := isDue_iff.1 due
  refine ⟨within, fun limit limited => ?_⟩
  rw [Polling.isExhausted, limited] at inTime
  exact Nat.not_lt.1 (of_decide_eq_false inTime)

/-- A poll makes no more requests than it has attempts. -/
theorem StopsAt.requests_le (h : course.StopsAt last stop) :
    last + stop.spends ≤ course.polling.maxAttempts := by
  rw [← Nat.not_lt]
  exact fun more => absurd (h.within_limit more).1 (Nat.lt_irrefl _)

/-- A poll that gives up has used up its attempts or would pass the limit on the time. -/
theorem exhausted_of_not_due (late : course.isDue number = false) :
    course.polling.maxAttempts ≤ number ∨
      ∃ limit, course.polling.maxWait = some limit ∧
        limit < course.elapsed number + course.polling.interval := by
  rw [isDue, Bool.and_eq_false_iff, decide_eq_false_iff_not, Nat.not_lt, Bool.not_eq_false',
    Polling.isExhausted] at late
  refine late.imp_right fun exhausted => ?_
  cases limited : course.polling.maxWait with
  | none =>
    rw [limited] at exhausted
    exact absurd exhausted Bool.false_ne_true
  | some limit =>
    rw [limited] at exhausted
    exact ⟨limit, rfl, of_decide_eq_true exhausted⟩

end Course

/-! ### The run of a poll -/

/-- What a poll that gives up says. It has no answer to go by, only its attempts. -/
def Decision.givingUp (attempts : Nat) : Decision :=
  { word := "timed_out"
    details := some s!"no terminal status after {attempts} attempts"
    outcome := .timedOut attempts }

namespace Course

variable {σ : Type}

/-- The end of the run of a poll after so many requests, with the states of the service after each. -/
def closing (course : Course) (states : Nat → σ) (made : Nat) : Stop → Run σ Outcome
  | .givesUp => concluded (.givingUp made)
  | .decides decision => concluded decision
  | .breaksOff text => ⟨.crashed (some text), course.turn made, states made, []⟩
where
  concluded (decision : Decision) : Run σ Outcome :=
    { ending := .returned (decision.outcome (course.elapsed made))
      finish := course.turn made
      state := states made
      trace :=
        [.event (Polling.event course.handle decision.word decision.details (course.elapsed made))
          (course.turn made)] }

/-- The run of a poll from the attempt with a number on. It ends so many attempts later. -/
def runFrom (course : Course) (states : Nat → σ) (first ahead : Nat) (stop : Stop) : Run σ Outcome :=
  let made := ahead + stop.spends
  let closing := course.closing states (first + made) stop
  { closing with trace := course.requests first made ++ closing.trace }

/-- The run of a poll that ends with the attempt of this number. -/
def run (course : Course) (states : Nat → σ) (last : Nat) (stop : Stop) : Run σ Outcome :=
  course.runFrom states 0 last stop

/-- A poll makes the status requests of its attempts and no other call. -/
theorem calls_run (course : Course) (states : Nat → σ) (last : Nat) (stop : Stop) :
    (course.run states last stop).trace.filterMap Step.call? =
      (List.range (last + stop.spends)).map fun number =>
        (.check course.handle.endpoint course.handle.id, course.turn number + course.polling.interval) := by
  have closing : (course.closing states (0 + (last + stop.spends)) stop).trace.filterMap Step.call? = [] := by
    cases stop <;> rfl
  rw [run, runFrom, List.filterMap_append, closing, List.append_nil, requests, ← List.range_eq_range',
    List.filterMap_map]
  exact congrFun List.filterMap_eq_map' _

/-- A poll is over when the reply to its last request has come. -/
theorem finish_run (course : Course) (states : Nat → σ) (last : Nat) (stop : Stop) :
    (course.run states last stop).finish = course.turn (last + stop.spends) := by
  rw [run, runFrom, Nat.zero_add]
  cases stop <;> rfl

/-- A poll leaves the service as its last request does. -/
theorem state_run (course : Course) (states : Nat → σ) (last : Nat) (stop : Stop) :
    (course.run states last stop).state = states (last + stop.spends) := by
  rw [run, runFrom, Nat.zero_add]
  cases stop <;> rfl

/-- One more attempt that goes on. -/
theorem runFrom_succ (course : Course) (states : Nat → σ) (first ahead : Nat) (stop : Stop) :
    course.runFrom states first (ahead + 1) stop =
      (course.runFrom states (first + 1) ahead stop).after (course.request first) := by
  have made : ahead + 1 + stop.spends = ahead + stop.spends + 1 := by omega
  have total : first + (ahead + 1 + stop.spends) = first + 1 + (ahead + stop.spends) := by omega
  rw [runFrom, runFrom, total, made]
  rfl

end Course

namespace Polling

variable {σ : Type} {service : Service σ} {handle : Handle}

/-- What follows the answer to a status request, with so many attempts made and so many left. -/
def proceed (polling : Polling) (handle : Handle) (made left : Nat) (answer : Except Error Snapshot) :
    Procedure Outcome :=
  match Decision.of? answer with
  | some decision => finish handle decision.word decision.details decision.outcome
  | none => attempt polling handle made left

/-- One attempt: the budget is looked at, and if it allows for a request, one is made after a pause. -/
theorem run_attempt_succ (polling : Polling) (made left : Nat) (now : Nanos) (state : σ) :
    (attempt polling handle made (left + 1)).run service now state =
      if polling.isExhausted (now - handle.submitted) then (giveUp handle made).run service now state
      else
        (Procedure.check handle.endpoint handle.id (proceed polling handle (made + 1) left)).run service
          (now + polling.interval) state := by
  change Procedure.run service (if polling.isExhausted (now - handle.submitted) then _ else _) now state = _
  split <;> rfl

end Polling

namespace Course

variable {σ : Type} {service : Service σ} {state : σ} {course : Course} {made left last : Nat} {stop : Stop}

/-- The replies of a course are those that a service gives from a state on. -/
def Heard (course : Course) (service : Service σ) (state : σ) : Prop :=
  ∀ number,
    course.replies number =
      (service.check (service.afterChecks course.handle state number) course.handle.endpoint
        course.handle.id).1

/-- The next attempt begins when the reply has come. -/
theorem Heard.turn_succ (heard : course.Heard service state) (number : Nat) :
    course.turn (number + 1) =
      course.turn number + course.polling.interval +
        (service.check (service.afterChecks course.handle state number) course.handle.endpoint
          course.handle.id).1.delay := by
  rw [turn, heard number]

/-- An attempt that the budget does not allow for is not made. -/
theorem run_attempt_of_not_due (budget : made + left = course.polling.maxAttempts)
    (late : course.isDue made = false) :
    (course.polling.attempt course.handle made left).run service (course.turn made)
        (service.afterChecks course.handle state made) =
      course.closing (service.afterChecks course.handle state) made .givesUp := by
  cases left with
  | zero => rfl
  | succ left =>
    have exhausted : course.polling.isExhausted (course.elapsed made) = true := by
      rw [isDue, decide_eq_true (by omega), Bool.true_and, Bool.not_eq_false'] at late
      exact late
    rw [Polling.run_attempt_succ, ← elapsed, if_pos exhausted]
    rfl

/-- An attempt that the budget allows for makes a request after one interval. -/
theorem run_attempt_of_due (service : Service σ) (state : σ)
    (budget : made + left = course.polling.maxAttempts)
    (due : course.isDue made = true) :
    ∃ rest, left = rest + 1 ∧
      (course.polling.attempt course.handle made left).run service (course.turn made)
          (service.afterChecks course.handle state made) =
        (Procedure.check course.handle.endpoint course.handle.id
            (course.polling.proceed course.handle (made + 1) rest)).run service
          (course.turn made + course.polling.interval) (service.afterChecks course.handle state made) := by
  obtain ⟨within, inTime⟩ := isDue_iff.1 due
  obtain ⟨rest, rfl⟩ : ∃ rest, left = rest + 1 := ⟨left - 1, by omega⟩
  refine ⟨rest, rfl, ?_⟩
  rw [Polling.run_attempt_succ, if_neg]
  rw [← elapsed, inTime]
  exact Bool.false_ne_true

/-- **One attempt.** It goes on to the next one, or ends the poll. -/
theorem run_attempt_goesOn (heard : course.Heard service state)
    (budget : made + left = course.polling.maxAttempts) (goesOn : course.stop? made = none) :
    ∃ rest, left = rest + 1 ∧
      (course.polling.attempt course.handle made left).run service (course.turn made)
          (service.afterChecks course.handle state made) =
        ((course.polling.attempt course.handle (made + 1) rest).run service (course.turn (made + 1))
          (service.afterChecks course.handle state (made + 1))).after (course.request made) := by
  obtain ⟨due, answer, replied, undecided⟩ := stop?_eq_none_iff.1 goesOn
  obtain ⟨rest, rfl, run⟩ := run_attempt_of_due service state budget due
  rw [heard made] at replied
  refine ⟨rest, rfl, ?_⟩
  rw [run, Procedure.run_check_returns replied, Polling.proceed, undecided, ← heard.turn_succ made]
  rfl

/-- An attempt that ends the poll. -/
theorem run_attempt_stops (heard : course.Heard service state)
    (budget : made + left = course.polling.maxAttempts) (stops : course.stop? made = some stop) :
    (course.polling.attempt course.handle made left).run service (course.turn made)
        (service.afterChecks course.handle state made) =
      course.runFrom (service.afterChecks course.handle state) made 0 stop := by
  -- the attempt is not due, or its answer decides, or the check breaks off
  cases stop with
  | givesUp => exact run_attempt_of_not_due budget (stop?_eq_givesUp_iff.1 stops)
  | decides decision =>
    obtain ⟨due, answer, replied, decides⟩ := stop?_eq_decides_iff.1 stops
    obtain ⟨rest, rfl, run⟩ := run_attempt_of_due service state budget due
    rw [heard made] at replied
    rw [run, Procedure.run_check_returns replied, Polling.proceed, decides, ← heard.turn_succ made]
    rfl
  | breaksOff text =>
    obtain ⟨due, replied⟩ := stop?_eq_breaksOff_iff.1 stops
    obtain ⟨rest, rfl, run⟩ := run_attempt_of_due service state budget due
    rw [heard made] at replied
    rw [run, Procedure.run_check_crashes replied, ← heard.turn_succ made]
    rfl

/-- The run of the attempts from one on, if the one so many attempts ahead ends the poll. -/
theorem run_attempt (heard : course.Heard service state) {ahead : Nat}
    (budget : made + left = course.polling.maxAttempts) (h : course.StopsAt (made + ahead) stop) :
    (course.polling.attempt course.handle made left).run service (course.turn made)
        (service.afterChecks course.handle state made) =
      course.runFrom (service.afterChecks course.handle state) made ahead stop := by
  -- the induction is on the attempts ahead, each of which goes on
  induction ahead generalizing made left with
  | zero => exact run_attempt_stops heard budget h.stops
  | succ ahead ih =>
    have here : course.stop? made = none := h.goesOn made (by omega)
    obtain ⟨rest, rfl, run⟩ := run_attempt_goesOn heard budget here
    have next : course.StopsAt (made + 1 + ahead) stop := by
      rwa [show made + 1 + ahead = made + (ahead + 1) by omega]
    rw [run, ih (by omega) next, runFrom_succ]

/-- **The run of a poll.** It makes the requests of the attempts up to the one that ends it. -/
theorem StopsAt.run_poll (h : course.StopsAt last stop) (heard : course.Heard service state) :
    (course.polling.poll course.handle).run service course.begun state =
      course.run (service.afterChecks course.handle state) last stop :=
  run_attempt heard (Nat.zero_add _) (by rwa [Nat.zero_add])

end Course

namespace Polling

variable {σ : Type} (service : Service σ) (polling : Polling) (handle : Handle) (begun : Nanos) (state : σ)

/-- A poll with the answers of a service. -/
def course : Course :=
  { polling, handle, begun
    replies := fun number =>
      (service.check (service.afterChecks handle state number) handle.endpoint handle.id).1 }

theorem heard_course : (course service polling handle begun state).Heard service state :=
  fun _ => rfl

/-- A poll is run as its course says, up to the attempt that ends it. -/
theorem exists_run_poll :
    ∃ last stop, (course service polling handle begun state).StopsAt last stop ∧
      (polling.poll handle).run service begun state =
        (course service polling handle begun state).run (service.afterChecks handle state) last stop := by
  obtain ⟨last, stop, -, h⟩ := (course service polling handle begun state).exists_stopsAt
  exact ⟨last, stop, h, h.run_poll (heard_course service polling handle begun state)⟩

end Polling

end ServiceProbe
