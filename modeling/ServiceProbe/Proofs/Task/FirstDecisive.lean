import ServiceProbe.Proofs.Task.Course
import ServiceProbe.Session.Script

/-!
# A poll stops at the first decisive reply

What a reply to a status request means is a table: `Decides` lists the replies that end a poll, with the
verdict on the task, and `Undecided` those that only cost an attempt. Every reply is in one of the two
(`decides_or_undecided`) and in no more (`Undecided.not_decides`).

* `Script.heard` — a poll against a scripted service hears the replies of the script in their order;
* `Polling.poll_stops_at_first_decisive` — the calls, the end and the instants of a poll for any replies and
  any delays: it stops at the first decisive reply, or when one of its two budgets has run out.
-/

namespace ServiceProbe

/-! ### The meaning of a reply -/

/-- The reply ends a poll with a verdict. A verdict is an outcome but for the time since the submission. -/
inductive Decides : Except Error Snapshot → (Nanos → Outcome) → Prop where
  | completed {snapshot : Snapshot} (status : snapshot.status = .completed) :
    Decides (.ok snapshot) (.success snapshot)
  | failed {snapshot : Snapshot} (status : snapshot.status = .failed) :
    Decides (.ok snapshot)
      (.failure (snapshot.error.getD "task failed without an error message"))
  | timedOut {snapshot : Snapshot} (status : snapshot.status = .timedOut) :
    Decides (.ok snapshot) (.failure (snapshot.error.getD "task timed out on the service"))
  | cancelled {snapshot : Snapshot} (status : snapshot.status = .cancelled) :
    Decides (.ok snapshot) (.cancelled snapshot)
  | auth (status : Nat) (message : String) :
    Decides (.error (.auth status message)) (.transportError (Error.auth status message).message)
  | refusedFault {fault : HttpFault} (code : fault.status? = some 401 ∨ fault.status? = some 403) :
    Decides (.error (.http fault)) (.transportError (Error.http fault).message)
  | creation (status : Nat) (message : String) :
    Decides (.error (.creation status message)) (.transportError (Error.creation status message).message)
  | config (fault : ConfigFault) :
    Decides (.error (.config fault)) (.transportError (Error.config fault).message)
  | internal (message : String) :
    Decides (.error (.internal message)) (.transportError (Error.internal message).message)
  | unknownStatus (word : String) :
    Decides (.error (.unknownStatus word)) (.failure (Error.unknownStatus word).message)

/-- The reply says nothing about the end of a task. -/
inductive Undecided : Except Error Snapshot → Prop where
  | pending {snapshot : Snapshot} (status : snapshot.status = .pending) : Undecided (.ok snapshot)
  | running {snapshot : Snapshot} (status : snapshot.status = .running) : Undecided (.ok snapshot)
  | cancelling {snapshot : Snapshot} (status : snapshot.status = .cancelling) : Undecided (.ok snapshot)
  | http {fault : HttpFault} (code : ¬ (fault.status? = some 401 ∨ fault.status? = some 403)) :
    Undecided (.error (.http fault))
  | api (status : Nat) (message : String) : Undecided (.error (.api status message))
  | serialization (cause : Json.SyntaxError) : Undecided (.error (.serialization cause))
  | invalidResponse (field reason : String) : Undecided (.error (.invalidResponse field reason))

/-- A fault over HTTP is worth another attempt unless its code refuses the credential. -/
theorem isRecoverable_http_iff (fault : HttpFault) :
    (Error.http fault).isRecoverable = true ↔ ¬ (fault.status? = some 401 ∨ fault.status? = some 403) := by
  rw [Error.isRecoverable, Bool.not_eq_true', Bool.eq_false_iff, ne_eq, not_iff_not]
  cases fault.status? with
  | none => simp
  | some status => simp [Error.refusesCredential]

/-- A decisive reply is one of the first table, with the verdict there. -/
theorem decides_of_decision {answer : Except Error Snapshot} {decision : Decision}
    (h : Decision.of? answer = some decision) : Decides answer decision.outcome := by
  rcases answer with e | snapshot
  · -- an error over HTTP decides by what it tells, and three kinds of errors never do
    cases e with
    | auth status message => cases h; exact .auth status message
    | creation status message => cases h; exact .creation status message
    | config fault => cases h; exact .config fault
    | internal message => cases h; exact .internal message
    | unknownStatus word => cases h; exact .unknownStatus word
    | http fault =>
      rw [Decision.of?_http] at h
      split at h
      case isTrue => cases h
      case isFalse lost =>
        cases h
        exact .refusedFault (not_not.1 (mt (isRecoverable_http_iff fault).2 lost))
    | api | serialization | invalidResponse => cases h
  · rw [Decision.of?, Decision.ofSnapshot?] at h
    cases status : snapshot.status with
    | completed => rw [status] at h; cases h; exact .completed status
    | failed => rw [status] at h; cases h; exact .failed status
    | cancelled => rw [status] at h; cases h; exact .cancelled status
    | timedOut => rw [status] at h; cases h; exact .timedOut status
    | pending | running | cancelling => rw [status] at h; cases h

/-- A reply that is not decisive is one of the other table. -/
theorem undecided_of_no_decision {answer : Except Error Snapshot} (h : Decision.of? answer = none) :
    Undecided answer := by
  rcases answer with e | snapshot
  · -- the errors that decide have a decision
    cases e with
    | http fault =>
      rw [Decision.of?_http] at h
      split at h
      case isTrue recoverable => exact .http ((isRecoverable_http_iff fault).1 recoverable)
      case isFalse => cases h
    | api status message => exact .api status message
    | serialization cause => exact .serialization cause
    | invalidResponse field reason => exact .invalidResponse field reason
    | auth | creation | config | internal | unknownStatus => cases h
  · rw [Decision.of?, Decision.ofSnapshot?] at h
    cases status : snapshot.status with
    | pending => exact .pending status
    | running => exact .running status
    | cancelling => exact .cancelling status
    | completed | failed | cancelled | timedOut => rw [status] at h; cases h

theorem decides_or_undecided (answer : Except Error Snapshot) :
    (∃ verdict, Decides answer verdict) ∨ Undecided answer := by
  cases h : Decision.of? answer with
  | some decision => exact .inl ⟨_, decides_of_decision h⟩
  | none => exact .inr (undecided_of_no_decision h)

/-- No reply is both. -/
theorem Undecided.not_decides {answer : Except Error Snapshot} (h : Undecided answer)
    (verdict : Nanos → Outcome) : ¬ Decides answer verdict := by
  intro decides
  cases h with
  | pending status | running status | cancelling status =>
    cases decides with
    | completed other | failed other | timedOut other | cancelled other => cases status.symm.trans other
  | http code =>
    cases decides with
    | refusedFault refused => exact code refused
  | api | serialization | invalidResponse => cases decides

/-! ### Scripted replies -/

namespace Script

/-- The script with these answers to status requests, each after its delay. -/
def replying (script : Script) (answers : Nat → Except Error Snapshot) (delays : Nat → Nanos) : Script :=
  { script with status := fun number => ⟨.returns (answers number), delays number⟩ }

/-- So many status requests for a task take its script that much further. -/
theorem checksOf_afterChecks (script : Script) (handle : Handle) (progress : Progress) (made : Nat) :
    (script.service.afterChecks handle progress made).checksOf handle.id =
      progress.checksOf handle.id + made := by
  induction made with
  | zero => rfl
  | succ made ih =>
    rw [Service.afterChecks]
    change (Entries.find? handle.id (Entries.insert handle.id _ _)).getD 0 = _
    rw [Entries.find?_insert_self, Option.getD_some, ih, Nat.add_assoc]

/-- A poll for a task whose status was not asked for before hears the replies of the script in their order. -/
theorem heard_of_unasked (script : Script) {course : Course} {progress : Progress}
    (unasked : progress.checksOf course.handle.id = 0) (replies : course.replies = script.status) :
    course.Heard script.service progress := by
  intro number
  change _ = script.status ((script.service.afterChecks course.handle progress number).checksOf course.handle.id)
  rw [checksOf_afterChecks, replies, unasked, Nat.zero_add]

/-- So does a poll against a script that is at its beginning. -/
theorem heard (script : Script) {course : Course} (replies : course.replies = script.status) :
    course.Heard script.service {} :=
  script.heard_of_unasked rfl replies

end Script

/-! ### The end of a poll -/

/-- **A poll stops at the first decisive reply.** Whatever the service answers and however long it takes,
a poll makes some number of status requests for its task, each one interval after the reply before it, and
no other call. It stops at the first reply that decides something, with its verdict; failing that it stops
when its attempts are used up or one more pause would end after the limit, and not before. -/
theorem Polling.poll_stops_at_first_decisive (polling : Polling) (handle : Handle) (age : Nanos)
    (script : Script) (answers : Nat → Except Error Snapshot) (delays : Nat → Nanos) :
    let course : Course :=
      { polling, handle, begun := handle.submitted + age
        replies := fun number => ⟨.returns (answers number), delays number⟩ }
    let run := (polling.poll handle).run (script.replying answers delays).service course.begun {}
    ∃ made ≤ polling.maxAttempts,
      run.trace.filterMap Step.call? =
        ((List.range made).map fun number =>
          (.check handle.endpoint handle.id, course.turn number + polling.interval)) ∧
      (∀ number < made, ∀ limit, polling.maxWait = some limit →
        course.elapsed number + polling.interval ≤ limit) ∧
      run.finish = course.turn made ∧
      ((∃ last verdict, made = last + 1 ∧ (∀ number < last, Undecided (answers number)) ∧
          Decides (answers last) verdict ∧ run.ending = .returned (verdict (course.elapsed made))) ∨
        ((∀ number < made, Undecided (answers number)) ∧
          (made = polling.maxAttempts ∨
            ∃ limit, polling.maxWait = some limit ∧ limit < course.elapsed made + polling.interval) ∧
          run.ending = .returned (.timedOut made (course.elapsed made)))) := by
  intro course run
  obtain ⟨last, stop, within, h⟩ := course.exists_stopsAt
  have ran : run = course.run _ last stop := h.run_poll (Script.heard _ rfl)
  have undecided : ∀ number < last, Undecided (answers number) := by
    intro number before
    obtain ⟨-, answer, replied, silent⟩ := Course.stop?_eq_none_iff.1 (h.goesOn number before)
    cases replied
    exact undecided_of_no_decision silent
  refine ⟨last + stop.spends, h.requests_le, ?_, fun number before => (h.within_limit before).2, ?_, ?_⟩
  · rw [ran]
    exact course.calls_run _ last stop
  · rw [ran]
    exact course.finish_run _ last stop
  · cases stop with
    | breaksOff text =>
      -- none of the replies breaks off
      obtain ⟨-, replied⟩ := Course.stop?_eq_breaksOff_iff.1 h.stops
      cases replied
    | decides decision =>
      obtain ⟨-, answer, replied, decides⟩ := Course.stop?_eq_decides_iff.1 h.stops
      cases replied
      refine .inl ⟨last, decision.outcome, rfl, undecided, decides_of_decision decides, ?_⟩
      rw [ran, Course.run, Course.runFrom, Nat.zero_add]
      rfl
    | givesUp =>
      refine .inr ⟨undecided, ?_, ?_⟩
      · refine (Course.exhausted_of_not_due (Course.stop?_eq_givesUp_iff.1 h.stops)).imp_left ?_
        exact fun enough => Nat.le_antisymm within enough
      · rw [ran, Course.run, Course.runFrom, Nat.zero_add]
        rfl

end ServiceProbe
