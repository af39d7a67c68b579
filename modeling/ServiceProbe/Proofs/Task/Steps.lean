import ServiceProbe.Proofs.Task.TimeLimit

/-!
# The steps of a poll

A poll asks for the status of its task and submits nothing. It is over in many ways, and each of them records an
event before the outcome is returned. `Announces` is the table of what such an event may say beside which outcome. A
poll that breaks off on a reply has no outcome, and records nothing.

* `Polling.asks_poll` — the status requests of a poll, in number;
* `Announces.of_decision`, `Announces.givingUp` — what a poll records at its end stands in the table;
* `Course.trace_run` — the steps of a poll are its requests, and behind them that event, if it is over;
* `Polling.poll_leaves_one_event` — the steps of a poll against any service, with its outcome.
-/

namespace ServiceProbe

/-- The step submits a task. -/
def Step.isSubmission : Step → Bool
  | call (.submit _ _) _ => true
  | _ => false

/-- **The table of events.** The word and the details that an event may have beside an outcome. -/
inductive Announces : String → Option String → Outcome → Prop where
  | completed (snapshot : Snapshot) (latency : Nanos) : Announces "completed" none (.success snapshot latency)
  | cancelled (snapshot : Snapshot) (latency : Nanos) : Announces "cancelled" none (.cancelled snapshot latency)
  | failed (reason : String) (latency : Nanos) : Announces "failed" (some reason) (.failure reason latency)
  | remoteTimeout (reason : String) (latency : Nanos) :
    Announces "remote_timeout" (some reason) (.failure reason latency)
  | unknownStatus (reason : String) (latency : Nanos) :
    Announces "unknown_status" (some reason) (.failure reason latency)
  | authFailed (reason : String) (latency : Nanos) :
    Announces "auth_failed" (some reason) (.transportError reason latency)
  | unrecoverable (reason : String) (latency : Nanos) :
    Announces "unrecoverable" (some reason) (.transportError reason latency)
  | timedOut (attempts : Nat) (latency : Nanos) :
    Announces "timed_out" (some s!"no terminal status after {attempts} attempts") (.timedOut attempts latency)

namespace Announces

/-- The word of an event determines the kind of the outcome. -/
theorem kind_eq {word word' : String} {details details' : Option String} {outcome outcome' : Outcome}
    (h : Announces word details outcome) (h' : Announces word' details' outcome') (same : word = word') :
    outcome.kind = outcome'.kind := by
  cases h <;> cases h' <;> first | rfl | exact absurd same (by decide)

/-- What a decisive reply says is recorded as it is returned. -/
theorem of_decision {answer : Except Error Snapshot} {decision : Decision}
    (h : Decision.of? answer = some decision) (latency : Nanos) :
    Announces decision.word decision.details (decision.outcome latency) := by
  rcases answer with e | snapshot
  · -- the errors that decide nothing have no decision to announce
    cases e with
    | auth status message => cases h; exact .authFailed _ latency
    | creation status message => cases h; exact .unrecoverable _ latency
    | config fault => cases h; exact .unrecoverable _ latency
    | internal message => cases h; exact .unrecoverable _ latency
    | unknownStatus word => cases h; exact .unknownStatus _ latency
    | http fault =>
      rw [Decision.of?_http] at h
      split at h
      case isTrue => cases h
      case isFalse => cases h; exact .unrecoverable _ latency
    | api | serialization | invalidResponse => cases h
  · rw [Decision.of?, Decision.ofSnapshot?] at h
    cases status : snapshot.status with
    | completed => rw [status] at h; cases h; exact .completed snapshot latency
    | failed => rw [status] at h; cases h; exact .failed _ latency
    | cancelled => rw [status] at h; cases h; exact .cancelled snapshot latency
    | timedOut => rw [status] at h; cases h; exact .remoteTimeout _ latency
    | pending | running | cancelling => rw [status] at h; cases h

theorem givingUp (attempts : Nat) (latency : Nanos) :
    Announces (Decision.givingUp attempts).word (Decision.givingUp attempts).details
      ((Decision.givingUp attempts).outcome latency) :=
  .timedOut attempts latency

end Announces

namespace Course

variable {σ : Type} {course : Course} {last : Nat} {stop : Stop}

/-! ### Replies that come -/

/-- A reply to a request of a poll makes the client break off if the poll ends by that, and only then. -/
theorem StopsAt.exists_crashes_iff (h : course.StopsAt last stop) :
    (∃ number < last + stop.spends, ∃ text, (course.replies number).answer = .crashes text) ↔
      ∃ text, stop = .breaksOff text := by
  constructor
  · rintro ⟨number, reached, text, crashes⟩
    have breaksOff : course.isDue number = true → course.stop? number = some (.breaksOff text) :=
      fun due => stop?_eq_breaksOff_iff.2 ⟨due, crashes⟩
    rcases Nat.lt_or_ge number last with before | there
    · -- the attempts before the last one go on
      have goesOn := h.goesOn number before
      rw [breaksOff (stop?_eq_none_iff.1 goesOn).1] at goesOn
      cases goesOn
    · -- a poll that gives up makes no request in its last attempt
      have spends : stop.spends ≠ 0 := by omega
      have isLast : number = last := by
        have : stop.spends ≤ 1 := by
          cases stop with
          | givesUp => exact Nat.zero_le 1
          | breaksOff | decides => exact Nat.le_refl 1
        omega
      subst isLast
      have due : course.isDue number = true := by
        by_contra late
        have givesUp := stop?_eq_givesUp_iff.2 (Bool.eq_false_iff.2 late)
        obtain rfl : Stop.givesUp = stop := Option.some.inj (givesUp.symm.trans h.stops)
        exact spends rfl
      exact ⟨text, Option.some.inj (h.stops.symm.trans (breaksOff due))⟩
  · rintro ⟨text, rfl⟩
    exact ⟨last, Nat.lt_succ_self last, text, (stop?_eq_breaksOff_iff.1 h.stops).2⟩

/-! ### The steps of a poll -/

/-- The requests of a poll come before all else that it does. -/
theorem trace_run (course : Course) (states : Nat → σ) (last : Nat) (stop : Stop) :
    (course.run states last stop).trace =
      course.requests 0 (last + stop.spends) ++ (course.closing states (last + stop.spends) stop).trace := by
  rw [run, runFrom, Nat.zero_add]

/-- The requests of a poll are its status requests, each at its instant. -/
theorem steps_calls_run (course : Course) (states : Nat → σ) (last : Nat) (stop : Stop) :
    ((course.run states last stop).trace.filterMap Step.call?).map
        (fun request => Step.call request.1 request.2) =
      course.requests 0 (last + stop.spends) := by
  rw [calls_run, List.map_map, requests, ← List.range_eq_range']
  rfl

/-- A poll that is not broken off has an outcome. Behind its requests it records one event, which announces
that outcome. -/
theorem StopsAt.exists_event (h : course.StopsAt last stop) (states : Nat → σ)
    (answered : ∀ text, stop ≠ .breaksOff text) :
    ∃ word details outcome, Announces word details outcome ∧
      (course.run states last stop).ending = .returned outcome ∧
      (course.closing states (last + stop.spends) stop).trace =
        [.event (Polling.event course.handle word details outcome.latency)
          (course.run states last stop).finish] := by
  rw [finish_run]
  cases stop with
  | breaksOff text => exact absurd rfl (answered text)
  | givesUp =>
    have ending := ending_run course states last .givesUp
    exact ⟨_, _, _, Announces.givingUp last (course.elapsed last), ending, rfl⟩
  | decides decision =>
    obtain ⟨-, answer, -, decides⟩ := stop?_eq_decides_iff.1 h.stops
    have ending : (course.run states last (.decides decision)).ending =
        .returned (decision.outcome (course.elapsed (last + 1))) := course.ending_run states last _
    refine ⟨_, _, _, Announces.of_decision decides (course.elapsed (last + 1)), ending, ?_⟩
    -- the event is recorded at the instant that the outcome is counted to
    rw [h.latency_eq ending]
    rfl

end Course

/-! ### The requests of a poll -/

/-- What a poll does: each of its steps is a status request for its task or an event about it, and it makes a bounded
number of requests, all of them where it times out. -/
structure Polling.Asks {σ : Type} (polling : Polling) (handle : Handle) (run : Run σ Outcome) : Prop where
  steps : ∀ step ∈ run.trace, (∃ instant, step = .call (.check handle.endpoint handle.id) instant) ∨
    ∃ operation instant, step = .event (.taskOperation operation) instant
  checks_le : run.trace.countP Step.isCheck ≤ polling.maxAttempts
  timedOut : ∀ attempts latency, run.ending = .returned (.timedOut attempts latency) →
    run.trace.countP Step.isCheck = attempts

/-- A poll submits nothing. -/
theorem Polling.Asks.submissions {σ : Type} {polling : Polling} {handle : Handle} {run : Run σ Outcome}
    (asks : polling.Asks handle run) : run.trace.filter Step.isSubmission = [] := by
  refine List.filter_eq_nil_iff.2 fun step member => ?_
  obtain ⟨instant, rfl⟩ | ⟨operation, instant, rfl⟩ := asks.steps step member <;> exact Bool.false_ne_true

namespace Course

variable {σ : Type} {course : Course} {last : Nat} {stop : Stop}

/-- A request of a poll is one for the status of its task. -/
theorem eq_check_of_mem_requests {count : Nat} {step : Step} (member : step ∈ course.requests 0 count) :
    ∃ instant, step = .call (.check course.handle.endpoint course.handle.id) instant := by
  obtain ⟨number, -, rfl⟩ := List.mem_map.1 member
  exact ⟨_, rfl⟩

/-- All that a poll does besides is to record an event about its task. -/
theorem eq_event_of_mem_closing {states : Nat → σ} {made : Nat} {step : Step}
    (member : step ∈ (course.closing states made stop).trace) :
    ∃ operation instant, step = .event (.taskOperation operation) instant := by
  cases stop with
  | breaksOff text => exact absurd member List.not_mem_nil
  | givesUp | decides =>
    obtain rfl := List.mem_singleton.1 member
    exact ⟨_, _, rfl⟩

/-- A poll makes a status request in each of its attempts, but in one in which it gives up. -/
theorem checks_run (course : Course) (states : Nat → σ) (last : Nat) (stop : Stop) :
    (course.run states last stop).trace.countP Step.isCheck = last + stop.spends := by
  have requests : (course.requests 0 (last + stop.spends)).countP Step.isCheck = last + stop.spends := by
    rw [List.countP_eq_length.2, Course.requests, List.length_map, List.length_range']
    intro step member
    obtain ⟨instant, rfl⟩ := eq_check_of_mem_requests member
    rfl
  have closing : (course.closing states (last + stop.spends) stop).trace.countP Step.isCheck = 0 := by
    refine List.countP_eq_zero.2 fun step member => ?_
    obtain ⟨operation, instant, rfl⟩ := eq_event_of_mem_closing member
    exact Bool.false_ne_true
  rw [trace_run, List.countP_append, requests, closing, Nat.add_zero]

/-- **The requests of a course.** There are no more of them than attempts. -/
theorem StopsAt.asks_run (h : course.StopsAt last stop) (states : Nat → σ) :
    course.polling.Asks course.handle (course.run states last stop) := by
  refine ⟨fun step member => ?_, ?_, fun attempts latency timedOut => ?_⟩
  · rw [trace_run] at member
    exact (List.mem_append.1 member).imp eq_check_of_mem_requests eq_event_of_mem_closing
  · rw [checks_run]
    exact h.requests_le
  · obtain ⟨rfl, rfl⟩ := h.eq_givesUp timedOut
    exact course.checks_run states attempts .givesUp

end Course

/-- **The requests of a poll**, against any service. -/
theorem Polling.asks_poll {σ : Type} (service : Service σ) (polling : Polling) (handle : Handle) (begun : Nanos)
    (state : σ) : polling.Asks handle ((polling.poll handle).run service begun state) := by
  obtain ⟨last, stop, stops, ran⟩ := exists_run_poll service polling handle begun state
  rw [ran]
  exact stops.asks_run _

/-! ### The event -/

namespace Polling

variable {σ : Type} (service : Service σ) (polling : Polling) (handle : Handle) (begun : Nanos) (state : σ)

/-- **A poll leaves one event.** The steps of a poll are status requests for its task. Behind them comes one
event, which announces the outcome, or nothing if the client broke off on a reply. -/
theorem poll_leaves_one_event :
    let run := (polling.poll handle).run service begun state
    let requests := run.trace.filterMap Step.call?
    let steps := requests.map fun request => Step.call request.1 request.2
    let reply := (polling.course service handle begun state).replies
    (∀ request ∈ requests, request.1 = .check handle.endpoint handle.id) ∧
      ((∀ number < requests.length, ∀ text, (reply number).answer ≠ .crashes text) →
        ∃ word details outcome, Announces word details outcome ∧
          run.ending = .returned outcome ∧
          run.trace = steps ++ [.event (.taskOperation
            { operation := "poll"
              taskId := handle.id
              endpoint := handle.endpoint
              status := word
              details
              elapsedMillis := outcome.latency / 1000000 }) run.finish]) ∧
      ((∃ number < requests.length, ∃ text, (reply number).answer = .crashes text) →
        run.trace = steps ∧ ∃ text, run.ending = .crashed text) := by
  intro run requests steps reply
  let course := polling.course service handle begun state
  let states := service.afterChecks handle state
  obtain ⟨last, stop, stops, ran⟩ := exists_run_poll service polling handle begun state
  -- the poll is its course, so that its requests are those of the attempts up to the last one
  have called : requests = _ := (congrArg (·.trace.filterMap Step.call?) ran).trans (course.calls_run states last stop)
  have count : requests.length = last + stop.spends := by
    rw [called, List.length_map, List.length_range]
  have trace : run.trace = steps ++ (course.closing states (last + stop.spends) stop).trace := by
    have requested : steps = course.requests 0 (last + stop.spends) := by
      rw [← course.steps_calls_run states, ← ran]
    rw [requested, ← course.trace_run, ← ran]
  have crashes := stops.exists_crashes_iff
  rw [← count] at crashes
  refine ⟨fun request made => ?_, fun answered => ?_, fun crashed => ?_⟩
  · rw [called] at made
    obtain ⟨number, -, rfl⟩ := List.mem_map.1 made
    rfl
  · -- every request was answered, so the poll has not broken off
    have goesThrough : ∀ text, stop ≠ .breaksOff text := by
      intro text broken
      obtain ⟨number, reached, text, replied⟩ := crashes.2 ⟨text, broken⟩
      exact answered number reached text replied
    obtain ⟨word, details, outcome, announces, ending, event⟩ := stops.exists_event states goesThrough
    refine ⟨word, details, outcome, announces, (congrArg Run.ending ran).trans ending, ?_⟩
    rw [trace, event, ← ran]
    rfl
  · obtain ⟨text, rfl⟩ := crashes.1 crashed
    have ending := course.ending_run states last (.breaksOff text)
    exact ⟨trace.trans (List.append_nil _), text, (congrArg Run.ending ran).trans ending⟩

end Polling

end ServiceProbe
