import ServiceProbe.Proofs.Task.TimeLimit

/-!
# Polling with a larger budget

A poll has two budgets, and either may be the one that ends it. Where both are at least as large and the interval
is the same (`Polling.Within`), no attempt that was made is made at another instant, and none is left out: the
budgets are only asked whether there may be one more. So the larger poll goes through the same attempts and
differs at the earliest where the smaller one gave up.

* `Course.stop?_under` — an attempt that does not give up comes to the same under a larger budget;
* `Course.StopsAt.under`, `Course.StopsAt.le_under` — a poll that is decided ends with the same attempt, and one
  that gives up ends no later than under the larger budget;
* `Course.run_poll_of_within` — so for the runs, against any service.
-/

namespace ServiceProbe

/-- The second budget allows for all that the first one allows for, at the same pace. Without a limit on the time
there is no larger one. -/
structure Polling.Within (polling polling' : Polling) : Prop where
  interval_eq : polling'.interval = polling.interval
  maxAttempts_le : polling.maxAttempts ≤ polling'.maxAttempts
  maxWait_le : ∀ limit', polling'.maxWait = some limit' → ∃ limit, polling.maxWait = some limit ∧ limit ≤ limit'

/-- There is time for an attempt under a larger budget if there is under a smaller one. -/
theorem Polling.Within.isExhausted {polling polling' : Polling} (h : polling.Within polling') {elapsed : Nanos}
    (inTime : polling.isExhausted elapsed = false) : polling'.isExhausted elapsed = false := by
  cases limited' : polling'.maxWait with
  | none => rw [Polling.isExhausted, limited']
  | some limit' =>
    obtain ⟨limit, limited, le⟩ := h.maxWait_le limit' limited'
    rw [Polling.isExhausted, limited] at inTime
    rw [Polling.isExhausted, limited', h.interval_eq]
    exact decide_eq_false (Nat.not_lt.2 (Nat.le_trans (Nat.not_lt.1 (of_decide_eq_false inTime)) le))

/-- The poll of the run has given up. -/
def Run.TimesOut {σ : Type} (run : Run σ Outcome) : Prop :=
  ∃ attempts latency, run.ending = .returned (.timedOut attempts latency)

namespace Course

/-- The same poll under another budget. -/
def under (course : Course) (polling' : Polling) : Course :=
  { course with polling := polling' }

variable {course : Course} {polling' : Polling} {number last last' : Nat} {stop stop' : Stop}

/-! ### One attempt -/

/-- Attempts follow one another at the same pace. -/
theorem turn_under (h : course.polling.Within polling') (number : Nat) :
    (course.under polling').turn number = course.turn number := by
  induction number with
  | zero => rfl
  | succ number ih =>
    rw [turn, turn, ih]
    exact congrArg (course.turn number + · + _) h.interval_eq

theorem elapsed_under (h : course.polling.Within polling') (number : Nat) :
    (course.under polling').elapsed number = course.elapsed number :=
  congrArg (· - course.handle.submitted) (turn_under h number)

/-- A larger budget allows for every attempt that a smaller one allows for. -/
theorem isDue_under (h : course.polling.Within polling') (due : course.isDue number = true) :
    (course.under polling').isDue number = true := by
  obtain ⟨within, inTime⟩ := isDue_iff.1 due
  refine isDue_iff.2 ⟨Nat.lt_of_lt_of_le within h.maxAttempts_le, ?_⟩
  rw [elapsed_under h]
  exact h.isExhausted inTime

/-- **One attempt.** If it does not give up, it comes to the same under a larger budget. -/
theorem stop?_under (h : course.polling.Within polling') (made : course.stop? number ≠ some .givesUp) :
    (course.under polling').stop? number = course.stop? number := by
  have due : course.isDue number = true := by
    rw [Ne, stop?_eq_givesUp_iff, Bool.not_eq_false] at made
    exact made
  rw [stop?, stop?, if_pos due, if_pos (isDue_under h due)]
  rfl

theorem stop?_under_eq_none (h : course.polling.Within polling') (goesOn : course.stop? number = none) :
    (course.under polling').stop? number = none :=
  (stop?_under h (by simp [goesOn])).trans goesOn

/-! ### The end of a poll -/

/-- A poll that does not give up ends in the same way under a larger budget. -/
theorem StopsAt.under (h : course.polling.Within polling') (ends : course.StopsAt last stop)
    (decided : stop ≠ .givesUp) : (course.under polling').StopsAt last stop := by
  refine ⟨fun number before => stop?_under_eq_none h (ends.goesOn number before), ?_⟩
  have made : course.stop? last ≠ some .givesUp := by
    rw [ends.stops]
    exact fun same => decided (Option.some.inj same)
  exact (stop?_under h made).trans ends.stops

/-- However a poll ends, it goes as far under a larger budget. -/
theorem StopsAt.le_under (h : course.polling.Within polling') (ends : course.StopsAt last stop)
    (ends' : (course.under polling').StopsAt last' stop') : last ≤ last' := by
  rw [← Nat.not_lt]
  intro sooner
  have goesOn := stop?_under_eq_none h (ends.goesOn last' sooner)
  exact absurd (ends'.stops.symm.trans goesOn) (by simp)

/-! ### The run of a poll -/

section Run

variable {σ : Type} {service : Service σ} {state : σ}

/-- Ending with the same attempt, a poll does the same under a larger budget. -/
theorem run_under (h : course.polling.Within polling') (states : Nat → σ) (last : Nat) (stop : Stop) :
    (course.under polling').run states last stop = course.run states last stop := by
  have requests : (course.under polling').requests 0 = course.requests 0 := by
    funext count
    refine List.map_congr_left fun number _ => ?_
    rw [request, request, turn_under h]
    exact congrArg (fun interval => Step.call _ (course.turn number + interval)) h.interval_eq
  have closing (made : Nat) : (course.under polling').closing states made stop = course.closing states made stop := by
    cases stop <;> simp only [Course.closing, closing.concluded, elapsed_under h, turn_under h] <;> rfl
  rw [run, run, runFrom, runFrom, requests, closing]

/-- The requests of a poll that makes no more of them come first. -/
theorem calls_run_prefix (course : Course) (states : Nat → σ) (le : last + stop.spends ≤ last' + stop'.spends) :
    (course.run states last stop).trace.filterMap Step.call? <+:
      (course.run states last' stop').trace.filterMap Step.call? := by
  rw [calls_run, calls_run, ← Nat.min_eq_left le, ← List.take_range, List.map_take]
  exact List.take_prefix _ _

/-- A poll that gives up times out. -/
theorem timesOut_run_givesUp (course : Course) (states : Nat → σ) (last : Nat) :
    (course.run states last .givesUp).TimesOut :=
  ⟨_, _, ending_run course states last .givesUp⟩

/-- **A larger budget.** A poll that does not time out does the same under it, to the last step. One that does has
made the first of the requests that are made under it, at the same instants. -/
theorem run_poll_of_within (heard : course.Heard service state) (h : course.polling.Within polling') :
    let run := (course.polling.poll course.handle).run service course.begun state
    let run' := (polling'.poll course.handle).run service course.begun state
    (¬ run.TimesOut → run' = run) ∧
      run.trace.filterMap Step.call? <+: run'.trace.filterMap Step.call? := by
  intro run run'
  let states := service.afterChecks course.handle state
  obtain ⟨last, stop, -, ends⟩ := course.exists_stopsAt
  obtain ⟨last', stop', -, ends'⟩ := (course.under polling').exists_stopsAt
  -- the two runs are runs of one course, up to two of its attempts
  have ran : run = course.run states last stop := ends.run_poll heard
  have heard' : (course.under polling').Heard service state := heard
  have ran' : run' = course.run states last' stop' := (ends'.run_poll heard').trans (run_under h states last' stop')
  have same (decided : stop ≠ .givesUp) : run' = run := by
    obtain ⟨rfl, rfl⟩ := (ends.under h decided).unique ends'
    exact ran'.trans ran.symm
  -- the end of a poll that does not give up is the end under the larger budget too
  constructor
  · intro inTime
    refine same fun givesUp => inTime ?_
    rw [ran, givesUp]
    exact course.timesOut_run_givesUp states last
  · by_cases decided : stop = .givesUp
    · subst decided
      have le : last + Stop.givesUp.spends ≤ last' + stop'.spends :=
        Nat.le_add_right_of_le (ends.le_under h ends')
      rw [ran, ran']
      exact course.calls_run_prefix states le
    · exact (same decided).symm ▸ List.prefix_refl _

end Run

end Course

end ServiceProbe
