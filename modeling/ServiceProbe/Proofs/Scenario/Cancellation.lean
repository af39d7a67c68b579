import ServiceProbe.Proofs.Session.Requests
import ServiceProbe.Scenario.Catalogue
import ServiceProbe.Session.Script

/-!
# The acknowledgement of a cancellation

A scenario submits a crawl, cancels it and looks at its status once, with a pause before each of the later requests.
It is the one that waits for no end of a task: a task that is about to be cancelled is as good as one that was.

The service meets three requests at most, so the replies can be named in advance (`CancellationReplies`), those behind
the submission by the id of the task. What they come to is a table: `CancellationReplies.Goes` lists the requests that
are made, with their instants, and the end of the scenario. The verdict is read off that table alone.

* `Scenario.goes_cancellation` — a run of the scenario is in the table;
* `CancellationReplies.Goes.passed_iff` — of the entries of the table one passes;
* `Scenario.taskCancellation_asks_for_acknowledgement` — both, and that no budget has a say in it.
-/

namespace ServiceProbe

namespace Scenario

/-- The crawl that is submitted to be cancelled. -/
def cancelledCrawl (config : Config) : Payload :=
  .crawl (CrawlRequest.breadthFirst config.load.targetUrl 3 100)

/-! ### The replies -/

/-- The replies to the submission, and to the requests for the task that it gave an id. -/
structure CancellationReplies where
  submission : Reply String
  cancellation : String → Reply Bool
  status : String → Reply Snapshot

/-- The replies of a service from a state on, which each request changes for the next one. -/
def cancellationReplies {σ : Type} (service : Service σ) (config : Config) (state : σ) : CancellationReplies :=
  let submission := service.submit state .configured .crawl (cancelledCrawl config)
  let cancellation := service.cancel submission.2 .crawl
  { submission := submission.1
    cancellation := fun id => (cancellation id).1
    status := fun id => (service.check (cancellation id).2 .crawl id).1 }

namespace CancellationReplies

variable (replies : CancellationReplies) (config : Config) (begun : Nanos)

/-- The task is cancelled one interval after the reply to its submission. -/
def cancelTurn : Nanos :=
  begun + replies.submission.delay + config.pollingOf.interval

/-- Its status is asked for one interval after the reply to the cancellation. -/
def checkTurn (id : String) : Nanos :=
  replies.cancelTurn config begun + (replies.cancellation id).delay + config.pollingOf.interval

/-- The request for the submission. -/
def submits : Step :=
  .call (.submit .crawl (cancelledCrawl config)) begun

def cancels (id : String) : Step :=
  .call (.cancel .crawl id) (replies.cancelTurn config begun)

def checks (id : String) : Step :=
  .call (.check .crawl id) (replies.checkTurn config begun id)

/-- The answer ends the scenario, with itself. -/
inductive Stops {α : Type} : Answer α → ScenarioEnd → Prop where
  | error (e : Error) : Stops (.returns (.error e)) (.returned (.error (.error e)))
  | breaksOff (text : String) : Stops (.crashes text) (.crashed (some text))

/-- The requests that are made, and what the scenario comes to. -/
inductive Goes : List Step → ScenarioEnd → Prop where
  | unsubmitted {ending : ScenarioEnd} (stops : Stops replies.submission.answer ending) :
    Goes [submits config begun] ending
  | uncancelled {id : String} {ending : ScenarioEnd} (accepted : replies.submission.answer = .returns (.ok id))
      (stops : Stops (replies.cancellation id).answer ending) :
    Goes [submits config begun, replies.cancels config begun id] ending
  | refused {id : String} (accepted : replies.submission.answer = .returns (.ok id))
      (refused : (replies.cancellation id).answer = .returns (.ok false)) :
    Goes [submits config begun, replies.cancels config begun id]
      (.returned (.ok (.fail s!"cancellation of {id} was not accepted")))
  | unchecked {id : String} {ending : ScenarioEnd} (accepted : replies.submission.answer = .returns (.ok id))
      (confirmed : (replies.cancellation id).answer = .returns (.ok true))
      (stops : Stops (replies.status id).answer ending) :
    Goes [submits config begun, replies.cancels config begun id, replies.checks config begun id] ending
  | acknowledged {id : String} {snapshot : Snapshot} (accepted : replies.submission.answer = .returns (.ok id))
      (confirmed : (replies.cancellation id).answer = .returns (.ok true))
      (told : (replies.status id).answer = .returns (.ok snapshot))
      (acknowledges : snapshot.status = .cancelling ∨ snapshot.status = .cancelled) :
    Goes [submits config begun, replies.cancels config begun id, replies.checks config begun id]
      (.returned (.ok (.pass s!"task {id} is {snapshot.status.word}")))
  | ignored {id : String} {snapshot : Snapshot} (accepted : replies.submission.answer = .returns (.ok id))
      (confirmed : (replies.cancellation id).answer = .returns (.ok true))
      (told : (replies.status id).answer = .returns (.ok snapshot))
      (ignores : ¬ (snapshot.status = .cancelling ∨ snapshot.status = .cancelled)) :
    Goes [submits config begun, replies.cancels config begun id, replies.checks config begun id]
      (.returned (.ok (.fail s!"task {id} still {snapshot.status.word} after cancellation")))

/-- The task is accepted, so is its cancellation, and the status acknowledges it. -/
def Acknowledge : Prop :=
  ∃ id, replies.submission.answer = .returns (.ok id) ∧ (replies.cancellation id).answer = .returns (.ok true) ∧
    ∃ snapshot, (replies.status id).answer = .returns (.ok snapshot) ∧
      (snapshot.status = .cancelling ∨ snapshot.status = .cancelled)

variable {replies config begun}

theorem Stops.of_error {α : Type} {answer : Answer α} {e : Error} (h : answer = .returns (.error e)) :
    Stops answer (.returned (.error (.error e))) := by
  rw [h]
  exact .error e

theorem Stops.of_crash {α : Type} {answer : Answer α} {text : String} (h : answer = .crashes text) :
    Stops answer (.crashed (some text)) := by
  rw [h]
  exact .breaksOff text

theorem Stops.not_passed {α : Type} {answer : Answer α} {ending : ScenarioEnd} (h : Stops answer ending) :
    (Performance.verdictOf ending).passed = false := by
  cases h <;> rfl

theorem Stops.ne_ok {α : Type} {answer : Answer α} {ending : ScenarioEnd} (h : Stops answer ending) (result : α) :
    answer ≠ .returns (.ok result) := by
  cases h <;> simp

/-- **What passes.** Of the entries of the table one passes, and the others exclude what it asks for. -/
theorem Goes.passed_iff {trace : List Step} {ending : ScenarioEnd} (h : replies.Goes config begun trace ending) :
    (Performance.verdictOf ending).passed ↔ replies.Acknowledge := by
  -- the replies of an acknowledgement are those of the entry, as far as the entry goes
  have excluded (failed : (Performance.verdictOf ending).passed = false) (none : ¬ replies.Acknowledge) :
      (Performance.verdictOf ending).passed ↔ replies.Acknowledge :=
    iff_of_false (Bool.not_eq_true _ ▸ failed) none
  -- in each other case a reply that an acknowledgement needs is not there
  cases h with
  | unsubmitted stops =>
    refine excluded stops.not_passed ?_
    rintro ⟨id, accepted, -⟩
    exact stops.ne_ok id accepted
  | uncancelled accepted stops =>
    refine excluded stops.not_passed ?_
    rintro ⟨id, accepted', confirmed, -⟩
    cases accepted.symm.trans accepted'
    exact stops.ne_ok true confirmed
  | refused accepted refused =>
    refine excluded rfl ?_
    rintro ⟨id, accepted', confirmed, -⟩
    cases accepted.symm.trans accepted'
    cases refused.symm.trans confirmed
  | unchecked accepted confirmed stops =>
    refine excluded stops.not_passed ?_
    rintro ⟨id, accepted', -, snapshot, told, -⟩
    cases accepted.symm.trans accepted'
    exact stops.ne_ok snapshot told
  | acknowledged accepted confirmed told acknowledges =>
    exact iff_of_true rfl ⟨_, accepted, confirmed, _, told, acknowledges⟩
  | ignored accepted confirmed told ignores =>
    refine excluded rfl ?_
    rintro ⟨id, accepted', -, snapshot, told', acknowledges⟩
    cases accepted.symm.trans accepted'
    cases told.symm.trans told'
    exact ignores acknowledges

end CancellationReplies

/-! ### The procedure -/

/-- What is done with a task whose cancellation is accepted. -/
def checkCancelled (pause : Nanos) (handle : Handle) : Procedure (Except Failure Verdict) :=
  .sleep pause <| (Procedure.checkTask handle).bind fun
    | .error e => .done (.error (.error e))
    | .ok snapshot => .done (.ok (cancellationVerdict handle.id snapshot))

/-- What is done with a task that is accepted. -/
def cancelAccepted (pause : Nanos) (handle : Handle) : Procedure (Except Failure Verdict) :=
  .sleep pause <| (Procedure.cancelTask handle).bind fun
    | .error e => .done (.error (.error e))
    | .ok false => .done (.ok (.fail s!"cancellation of {handle.id} was not accepted"))
    | .ok true => checkCancelled pause handle

/-- All that is done. -/
def submitAndCancel (pause : Nanos) (payload : Payload) : Procedure (Except Failure Verdict) :=
  (Procedure.submitTask .crawl payload).bind fun
    | .error e => .done (.error (.error e))
    | .ok handle => cancelAccepted pause handle

theorem body_taskCancellation (config : Config) :
    taskCancellation.body config =
      Session.attempt (submitAndCancel config.pollingOf.interval (cancelledCrawl config)) := by
  -- each step of the scenario goes on with the value of the one before, or stops with its error
  refine congrArg Session.attempt (congrArg (Procedure.bind _) (funext fun accepted => ?_))
  cases accepted with
  | error e => rfl
  | ok handle =>
    refine congrArg (Procedure.sleep _) ?_
    change (Procedure.cancelTask handle).bind _ = (Procedure.cancelTask handle).bind _
    refine congrArg (Procedure.bind _) (funext fun confirmed => ?_)
    match confirmed with
    | .error e => rfl
    | .ok false => rfl
    | .ok true =>
      refine congrArg (Procedure.sleep _) ?_
      change (Procedure.checkTask handle).bind _ = (Procedure.checkTask handle).bind _
      refine congrArg (Procedure.bind _) (funext fun told => ?_)
      cases told <;> rfl

section Runs

variable {σ : Type} (service : Service σ) (pause : Nanos) (handle : Handle) (now : Nanos) (state : σ)

theorem run_checkCancelled :
    (checkCancelled pause handle).run service now state =
      let check := service.check state handle.endpoint handle.id
      let heard := now + pause + check.1.delay
      Run.after (.call (.check handle.endpoint handle.id) (now + pause))
        (match check.1.answer with
        | .returns (.ok snapshot) => ⟨.returned (.ok (cancellationVerdict handle.id snapshot)), heard, check.2, []⟩
        | .returns (.error e) => ⟨.returned (.error (.error e)), heard, check.2, []⟩
        | .crashes text => ⟨.crashed (some text), heard, check.2, []⟩) := by
  show Procedure.run service (Procedure.bind _ _) (now + pause) state = _
  rw [Procedure.run_bind_answered (Procedure.run_checkTask service handle (now + pause) state)]
  dsimp only
  match (service.check state handle.endpoint handle.id).1.answer with
  | .returns (.ok snapshot) | .returns (.error e) | .crashes text => rfl

theorem run_cancelAccepted :
    (cancelAccepted pause handle).run service now state =
      let cancellation := service.cancel state handle.endpoint handle.id
      let heard := now + pause + cancellation.1.delay
      Run.after (.call (.cancel handle.endpoint handle.id) (now + pause))
        (match cancellation.1.answer with
        | .returns (.ok true) => (checkCancelled pause handle).run service heard cancellation.2
        | .returns (.ok false) =>
          ⟨.returned (.ok (.fail s!"cancellation of {handle.id} was not accepted")), heard, cancellation.2, []⟩
        | .returns (.error e) => ⟨.returned (.error (.error e)), heard, cancellation.2, []⟩
        | .crashes text => ⟨.crashed (some text), heard, cancellation.2, []⟩) := by
  show Procedure.run service (Procedure.bind _ _) (now + pause) state = _
  rw [Procedure.run_bind_answered (Procedure.run_cancelTask service handle (now + pause) state)]
  dsimp only
  match (service.cancel state handle.endpoint handle.id).1.answer with
  | .returns (.ok true) | .returns (.ok false) | .returns (.error e) | .crashes text => rfl

theorem run_submitAndCancel (payload : Payload) :
    (submitAndCancel pause payload).run service now state =
      let submission := service.submit state .configured .crawl payload
      let heard := now + submission.1.delay
      Run.after (.call (.submit .crawl payload) now)
        (match submission.1.answer with
        | .returns (.ok id) => (cancelAccepted pause ⟨id, .crawl, now⟩).run service heard submission.2
        | .returns (.error e) => ⟨.returned (.error (.error e)), heard, submission.2, []⟩
        | .crashes text => ⟨.crashed (some text), heard, submission.2, []⟩) := by
  rw [submitAndCancel, Procedure.run_submitTask_bind]
  dsimp only
  match (service.submit state .configured .crawl payload).1.answer with
  | .returns (.ok id) | .returns (.error e) | .crashes text => rfl

end Runs

theorem acknowledgesCancel_iff {status : Status} :
    status.acknowledgesCancel = true ↔ status = .cancelling ∨ status = .cancelled := by
  cases status <;> simp [Status.acknowledgesCancel]

/-- **Every run is in the table.** Its cases are those of the answers, in the order of the requests. -/
theorem goes_cancellation {σ : Type} (service : Service σ) (config : Config) (begun : Nanos) (state : σ) :
    (cancellationReplies service config state).Goes config begun
      ((taskCancellation.body config).run service begun state).trace
      ((taskCancellation.body config).run service begun state).result := by
  rw [body_taskCancellation, Session.run_attempt, run_submitAndCancel]
  dsimp only
  -- submission, cancellation and status request, each of which may fail or break off
  split
  · next id accepted =>
    rw [run_cancelAccepted]
    dsimp only
    split
    · next confirmed =>
      rw [run_checkCancelled]
      dsimp only
      split
      · next snapshot told =>
        rw [cancellationVerdict]
        by_cases acknowledges : snapshot.status.acknowledgesCancel = true
        · rw [if_pos acknowledges]
          exact .acknowledged accepted confirmed told (acknowledgesCancel_iff.1 acknowledges)
        · rw [if_neg acknowledges]
          exact .ignored accepted confirmed told (mt acknowledgesCancel_iff.2 acknowledges)
      · next e failed => exact .unchecked accepted confirmed (.of_error failed)
      · next text broken => exact .unchecked accepted confirmed (.of_crash broken)
    · next refused => exact .refused accepted refused
    · next e failed => exact .uncancelled accepted (.of_error failed)
    · next text broken => exact .uncancelled accepted (.of_crash broken)
  · next e failed => exact .unsubmitted (.of_error failed)
  · next text broken => exact .unsubmitted (.of_crash broken)

/-- **Acknowledgement and nothing else.** Under every configuration and whatever the service answers, after any
delays, the scenario makes no requests but the three of the table, each later one an interval after the reply to the
one before, and comes to what the table tells. So it passes if the one submission is accepted, the one cancellation is
confirmed and the one status is that of a task that is cancelled or about to be, and in no other case: a cancellation
that is refused fails without a status request, and a request that fails is the last. The budgets of polls have no
say in any of it. -/
theorem taskCancellation_asks_for_acknowledgement {σ : Type} (service : Service σ) (config : Config) (begun : Nanos)
    (state : σ) :
    let replies := cancellationReplies service config state
    let played := (taskCancellation.body config).run service begun state
    let performed := fun config => (taskCancellation.perform config).run service begun state
    replies.Goes config begun played.trace played.result ∧
      (performed config).trace = played.trace ∧
      ((performed config).result.verdict.passed ↔ replies.Acknowledge) ∧
      ∀ maxAttempts maxWaitMillis,
        performed { config with polling := { config.polling with maxAttempts, maxWaitMillis } } =
          performed config := by
  intro replies played performed
  have goes : replies.Goes config begun played.trace played.result := goes_cancellation service config begun state
  have verdict : (performed config).result.verdict = Performance.verdictOf played.result := rfl
  have trace : (performed config).trace = played.trace := rfl
  refine ⟨goes, trace, ?_, fun _ _ => rfl⟩
  rw [verdict]
  exact goes.passed_iff

/-- Each pause of two seconds begins with the reply to the request before it. -/
example :
    let service := Script.service
      { submission := fun _ => ⟨.returns (.ok none), 3⟩
        status := fun _ => ⟨.returns (.ok (Snapshot.ofStatus .cancelling)), 4⟩ }
    let played := (taskCancellation.perform {}).run service 0 {}
    played.result.verdict = .pass "task task-0 is cancelling" ∧
      played.trace.map Step.instant = [0, Nanos.ofMillis 2000 + 3, 2 * Nanos.ofMillis 2000 + 3] := by
  cbv

end Scenario

end ServiceProbe
