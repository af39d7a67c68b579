import ServiceProbe.Proofs.Task.FirstDecisive

/-!
# Polling within a limit on the time

The limit is looked at before the pause of an attempt, and the request is made behind the pause. So what is
compared with the limit is the instant at which the request would be made, and a request that would be made
at the very end of the limit is made.

* `Course.StopsAt.request_le` — no request is made after the limit;
* `Course.StopsAt.limit_lt` — a poll that gives up before its attempts are used up could not have made another
  request within the limit;
* `Course.StopsAt.elapsed_le` — a poll whose replies take no time is over within the limit, unless the limit
  was past when it began.

`Polling.poll_within_limit` says so of the run of a poll against any service, whatever it answers, and
however long that takes.
-/

namespace ServiceProbe

/-- The outcome that a reply decides bears the time it is given. -/
theorem Decides.latency_eq {answer : Except Error Snapshot} {verdict : Nanos → Outcome}
    (h : Decides answer verdict) (elapsed : Nanos) : (verdict elapsed).latency = elapsed := by
  cases h <;> rfl

/-- No reply is a time-out of the poll. -/
theorem Decides.ne_timedOut {answer : Except Error Snapshot} {verdict : Nanos → Outcome}
    (h : Decides answer verdict) (elapsed : Nanos) (attempts : Nat) (latency : Nanos) :
    verdict elapsed ≠ .timedOut attempts latency := by
  intro timedOut
  cases h <;> cases timedOut

namespace Course

variable {course : Course} {number last : Nat} {stop : Stop} {limit : Nanos}

/-! ### The clock of a poll -/

/-- Attempts begin one after the other. -/
theorem begun_le_turn (course : Course) (number : Nat) : course.begun ≤ course.turn number := by
  induction number with
  | zero => exact Nat.le_refl _
  | succ number ih =>
    rw [turn, Nat.add_assoc]
    exact Nat.le_add_right_of_le ih

/-- The instant of an attempt, counted from a submission that was made before the poll. -/
theorem submitted_add_elapsed (submitted : course.handle.submitted ≤ course.begun) (number : Nat) :
    course.handle.submitted + course.elapsed number = course.turn number :=
  Nat.add_sub_cancel' (Nat.le_trans submitted (course.begun_le_turn number))

/-- Where a reply takes no time, the next attempt begins at the instant of the request. -/
theorem elapsed_succ (submitted : course.handle.submitted ≤ course.begun)
    (instant : (course.replies number).delay = 0) :
    course.elapsed (number + 1) = course.elapsed number + course.polling.interval := by
  rw [elapsed, turn, instant, Nat.add_zero, elapsed]
  exact Nat.sub_add_comm (Nat.le_trans submitted (course.begun_le_turn number))

/-! ### The limit -/

/-- No request is made after the limit. -/
theorem StopsAt.request_le (h : course.StopsAt last stop) (limited : course.polling.maxWait = some limit)
    (submitted : course.handle.submitted ≤ course.begun) (made : number < last + stop.spends) :
    course.turn number + course.polling.interval ≤ course.handle.submitted + limit := by
  have within := (h.within_limit made).2 limit limited
  calc course.turn number + course.polling.interval
      = course.handle.submitted + (course.elapsed number + course.polling.interval) := by
        rw [← Nat.add_assoc, submitted_add_elapsed submitted]
    _ ≤ course.handle.submitted + limit := Nat.add_le_add_left within _

/-- A poll that gives up with attempts left could not have made another request within the limit. -/
theorem StopsAt.limit_lt (h : course.StopsAt last .givesUp) (limited : course.polling.maxWait = some limit)
    (left : last < course.polling.maxAttempts) :
    limit < course.elapsed last + course.polling.interval := by
  rcases exhausted_of_not_due (stop?_eq_givesUp_iff.1 h.stops) with used | ⟨other, isLimit, exhausted⟩
  · exact absurd used (Nat.not_le.2 left)
  · obtain rfl : limit = other := Option.some.inj (limited.symm.trans isLimit)
    exact exhausted

/-- A poll whose replies take no time ends within the limit, or as soon as it begins. -/
theorem StopsAt.elapsed_le (h : course.StopsAt last stop) (limited : course.polling.maxWait = some limit)
    (submitted : course.handle.submitted ≤ course.begun)
    (instant : ∀ number, (course.replies number).delay = 0) :
    course.elapsed (last + stop.spends) ≤ max limit (course.begun - course.handle.submitted) := by
  cases requests : last + stop.spends with
  | zero => exact Nat.le_max_right _ _
  | succ before =>
    -- the last request was within the limit, and its reply came at once
    have made : before < last + stop.spends := by omega
    rw [elapsed_succ submitted (instant before)]
    exact Nat.le_trans ((h.within_limit made).2 limit limited) (Nat.le_max_left _ _)

/-- A poll begun too late for one pause makes no request. -/
theorem StopsAt.eq_zero (h : course.StopsAt last stop) (limited : course.polling.maxWait = some limit)
    (late : limit < course.elapsed 0 + course.polling.interval) : last + stop.spends = 0 := by
  by_contra some
  have within := (h.within_limit (Nat.pos_of_ne_zero some)).2 limit limited
  exact absurd within (Nat.not_le.2 late)

/-! ### The outcome -/

section outcome

variable {σ : Type} {states : Nat → σ} {outcome : Outcome}

theorem ending_run (course : Course) (states : Nat → σ) (last : Nat) (stop : Stop) :
    (course.run states last stop).ending = (course.closing states (last + stop.spends) stop).ending := by
  rw [run, runFrom, Nat.zero_add]

/-- The outcome of a poll bears the time since the submission at its end. -/
theorem StopsAt.latency_eq (h : course.StopsAt last stop)
    (returned : (course.run states last stop).ending = .returned outcome) :
    outcome.latency = course.elapsed (last + stop.spends) := by
  rw [ending_run] at returned
  cases stop with
  | givesUp => cases returned; rfl
  | breaksOff text => cases returned
  | decides decision =>
    obtain ⟨-, answer, -, decides⟩ := stop?_eq_decides_iff.1 h.stops
    cases returned
    exact (decides_of_decision decides).latency_eq _

/-- A poll times out by giving up, and only so. -/
theorem StopsAt.eq_givesUp {attempts : Nat} {latency : Nanos} (h : course.StopsAt last stop)
    (timedOut : (course.run states last stop).ending = .returned (.timedOut attempts latency)) :
    stop = .givesUp ∧ attempts = last := by
  rw [ending_run] at timedOut
  cases stop with
  | givesUp => cases timedOut; exact ⟨rfl, rfl⟩
  | breaksOff text => cases timedOut
  | decides decision =>
    obtain ⟨-, answer, -, decides⟩ := stop?_eq_decides_iff.1 h.stops
    exact absurd (Ending.returned.inj timedOut) ((decides_of_decision decides).ne_timedOut _ _ _)

end outcome

end Course

/-- **Polling within a limit on the time.** Whatever the service answers and however long that takes, a poll
makes no request later than the limit, counted from the submission. It times out with attempts left only if
a further pause would end after the limit, and if replies take no time its outcome comes within the limit,
or at once where the limit is past when it begins. Begun too late for one pause, it makes no request. -/
theorem Polling.poll_within_limit {σ : Type} (service : Service σ) (state : σ) (handle : Handle)
    (age interval limit : Nanos) (maxAttempts : Nat) :
    let polling : Polling := { interval, maxAttempts, maxWait := some limit }
    let run := (polling.poll handle).run service (handle.submitted + age) state
    let requests := run.trace.filterMap Step.call?
    (∀ request ∈ requests, request.2 ≤ handle.submitted + limit) ∧
      (∀ attempts latency, run.ending = .returned (.timedOut attempts latency) →
        attempts = requests.length ∧ run.finish = handle.submitted + latency ∧
          (requests.length < maxAttempts → limit < latency + interval)) ∧
      ((∀ number, (service.check (service.afterChecks handle state number) handle.endpoint
          handle.id).1.delay = 0) →
        ∀ outcome, run.ending = .returned outcome → outcome.latency ≤ max limit age) ∧
      (limit < age + interval → requests = []) := by
  intro polling run requests
  -- the poll is one course of attempts, with the replies that the service gives in turn
  let course : Course :=
    { polling, handle, begun := handle.submitted + age
      replies := fun number =>
        (service.check (service.afterChecks handle state number) handle.endpoint handle.id).1 }
  have submitted : course.handle.submitted ≤ course.begun := Nat.le_add_right _ _
  have begun : course.begun - course.handle.submitted = age := Nat.add_sub_cancel_left _ _
  obtain ⟨last, stop, -, h⟩ := course.exists_stopsAt
  have ran : run = course.run _ last stop := h.run_poll fun _ => rfl
  have called : requests = _ := (congrArg (·.trace.filterMap Step.call?) ran).trans (course.calls_run _ last stop)
  have count : requests.length = last + stop.spends := by
    rw [called, List.length_map, List.length_range]
  refine ⟨fun request member => ?_, fun attempts latency timedOut => ?_, fun instant outcome returned => ?_,
    fun late => ?_⟩
  · rw [called] at member
    obtain ⟨number, made, rfl⟩ := List.mem_map.1 member
    exact h.request_le rfl submitted (List.mem_range.1 made)
  · have finish : run.finish = course.turn (last + stop.spends) :=
      (congrArg Run.finish ran).trans (course.finish_run _ last stop)
    rw [ran] at timedOut
    have isLatency : latency = course.elapsed (last + stop.spends) := h.latency_eq timedOut
    obtain ⟨rfl, rfl⟩ := h.eq_givesUp timedOut
    refine ⟨count.symm, ?_, fun left => ?_⟩
    · rw [finish, isLatency]
      exact (course.submitted_add_elapsed submitted _).symm
    · rw [count] at left
      rw [isLatency]
      exact h.limit_lt rfl left
  · rw [ran] at returned
    rw [h.latency_eq returned, ← begun]
    exact h.elapsed_le rfl submitted instant
  · -- even the first pause would end after the limit
    have none : last + stop.spends = 0 := by
      refine h.eq_zero rfl ?_
      rw [Course.elapsed, Course.turn, begun]
      exact late
    exact List.length_eq_zero_iff.1 (count.trans none)

/-- A task on which nothing is said, at once, is asked for twice within 25 ns at intervals of 10 ns, and given up at
20 ns. Begun at 20 ns, the poll makes no request. -/
theorem Polling.poll_within_limit_of_pending :
    let polling : Polling := { interval := 10, maxAttempts := 5, maxWait := some 25 }
    let run (begun : Nanos) := (polling.poll ⟨"t", .crawl, 0⟩).run (Script.service {}) begun {}
    (run 0).ending = .returned (.timedOut 2 20) ∧ 25 < 20 + 10 ∧ (Outcome.timedOut 2 20).latency ≤ 25 ∧
      (run 20).trace.filterMap Step.call? = [] := by
  intro polling run
  have ending : (run 0).ending = .returned (.timedOut 2 20) := rfl
  have count : ((run 0).trace.filterMap Step.call?).length = 2 := rfl
  obtain ⟨-, givesUp, prompt, -⟩ := poll_within_limit (Script.service {}) {} ⟨"t", .crawl, 0⟩ 0 10 25 5
  obtain ⟨-, -, -, late⟩ := poll_within_limit (Script.service {}) {} ⟨"t", .crawl, 0⟩ 20 10 25 5
  have left : ((run 0).trace.filterMap Step.call?).length < 5 := by rw [count]; decide
  exact ⟨ending, (givesUp 2 20 ending).2.2 left, prompt (fun _ => rfl) _ ending, late (by decide)⟩

end ServiceProbe
