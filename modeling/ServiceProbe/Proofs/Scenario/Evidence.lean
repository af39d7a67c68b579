import ServiceProbe.Proofs.Json.Content
import ServiceProbe.Proofs.Session.Requests
import ServiceProbe.Proofs.Task.FirstDecisive
import ServiceProbe.Scenario.Catalogue

/-!
# The evidence of a scenario

Six scenarios submit one task, poll it and look into the body of the completed snapshot. Such a scenario passes
on some evidence (`Scenario.PassesOn`) if nothing else makes it pass, and nothing else keeps it from passing:
the submission is accepted, the poll of that very task ends in a success, and the body of the snapshot in that
success holds the evidence.

* `Polling.endsInSuccess_iff` — a poll ends in a success if the first answer that decides anything is a snapshot
  of a completed task;
* `Scenario.passesOn_ofTask` — a scenario of one task passes on what its verdict asks of the body;
* `Scenario.one_task_scenarios_pass_on_evidence` — the six scenarios and what each asks for.
-/

namespace ServiceProbe

/-! ### Polls that end in a success -/

namespace Polling

variable {σ : Type} (service : Service σ) (polling : Polling) (handle : Handle) (begun : Nanos) (state : σ)

/-- The poll ends in a success with this snapshot. -/
def EndsInSuccess (snapshot : Snapshot) : Prop :=
  ∃ latency, ((polling.poll handle).run service begun state).ending = .returned (.success snapshot latency)

/-- **A poll that ends in a success.** The answers before its last one said nothing about the end of the task,
and the last one, within the budget, is a snapshot of the completed task. It is this snapshot that the success
carries. -/
theorem endsInSuccess_iff (snapshot : Snapshot) :
    polling.EndsInSuccess service handle begun state snapshot ↔
      let course := course service polling handle begun state
      ∃ last, course.isDue last ∧ (course.replies last).answer = .returns (.ok snapshot) ∧
        snapshot.status = .completed ∧
        ∀ number < last, course.isDue number ∧
          ∃ answer, (course.replies number).answer = .returns answer ∧ Undecided answer := by
  let course := course service polling handle begun state
  have run {last : Nat} {stop : Course.Stop} (h : course.StopsAt last stop) :=
    h.run_poll (polling.heard_course service handle begun state)
  constructor
  · rintro ⟨latency, success⟩
    obtain ⟨last, stop, -, h⟩ := course.exists_stopsAt
    have success := (congrArg Run.ending (run h)).symm.trans success
    cases stop with
    | givesUp => cases success
    | breaksOff text => cases success
    | decides decision =>
      obtain ⟨due, answer, replied, decision'⟩ := Course.stop?_eq_decides_iff.1 h.stops
      have outcome : decision.outcome _ = .success snapshot latency := Ending.returned.inj success
      have decides := decides_of_decision decision'
      -- of the decisive answers only one becomes a success
      generalize decision.outcome = verdict at outcome decides
      cases decides with
      | completed completed =>
        cases outcome
        refine ⟨last, due, replied, completed, fun number before => ?_⟩
        obtain ⟨due, answer, replied, silent⟩ := Course.stop?_eq_none_iff.1 (h.goesOn number before)
        exact ⟨due, answer, replied, undecided_of_no_decision silent⟩
      | failed | timedOut | cancelled | auth | refusedFault | creation | config | internal | unknownStatus =>
        cases outcome
  · rintro ⟨last, due, replied, completed, earlier⟩
    -- the attempts before go on, so the poll stops where it is told of the completion
    have decision : Decision.of? (.ok snapshot) =
        some { word := "completed", outcome := .success snapshot } := by
      rw [Decision.of?, Decision.ofSnapshot?, completed]
    have h : course.StopsAt last (.decides { word := "completed", outcome := .success snapshot }) := by
      refine ⟨fun number before => ?_, Course.stop?_eq_decides_iff.2 ⟨due, _, replied, decision⟩⟩
      obtain ⟨due, answer, replied, undecided⟩ := earlier number before
      refine Course.stop?_eq_none_iff.2 ⟨due, answer, replied, ?_⟩
      rw [Option.eq_none_iff_forall_not_mem]
      exact fun decision decides => undecided.not_decides _ (decides_of_decision decides)
    exact ⟨_, congrArg Run.ending (run h)⟩

end Polling

namespace Scenario

/-! ### Scenarios of one task -/

/-- **What a scenario passes on.** Under every configuration and whatever the service does, it passes exactly if
its submission is accepted, the poll of the accepted task ends in a success, and the body of the snapshot in that
success holds the evidence. -/
def PassesOn (scenario : Scenario) (polling : Config → Polling) (endpoint : Endpoint)
    (payload : Config → Payload) (evidence : Json → Prop) : Prop :=
  ∀ (σ : Type) (service : Service σ) (config : Config) (now : Nanos) (state : σ),
    let submission := service.submit state .configured endpoint (payload config)
    ((scenario.perform config).run service now state).result.verdict.passed ↔
      ∃ id, submission.1.answer = .returns (.ok id) ∧
        ∃ snapshot, (polling config).EndsInSuccess service ⟨id, endpoint, now⟩ (now + submission.1.delay)
            submission.2 snapshot ∧
          evidence snapshot.payload

/-- A verdict passes if the outcome is a success whose snapshot has the evidence. -/
theorem passed_judge_iff (evidence : Snapshot → Verdict) (outcome : Outcome) :
    (judge evidence outcome).passed ↔
      ∃ snapshot latency, outcome = .success snapshot latency ∧ (evidence snapshot).passed := by
  cases outcome with
  | success snapshot latency =>
    refine ⟨fun passed => ⟨snapshot, latency, rfl, passed⟩, ?_⟩
    rintro ⟨_, _, same, passed⟩
    cases same
    exact passed
  | failure | cancelled | timedOut | transportError =>
    refine ⟨fun passed => absurd passed Bool.false_ne_true, ?_⟩
    rintro ⟨_, _, same, -⟩
    cases same

section OneTask

variable {σ : Type} {service : Service σ} {polling : Polling} {endpoint : Endpoint} {payload : Payload}
  {now : Nanos} {state : σ}

/-- A submission that is not accepted leaves nothing to poll and no verdict. -/
def refusal (endpoint : Endpoint) (e : Error) : Except Failure Verdict :=
  .error (.within s!"submitting task to {endpoint.path}" (.error e))

/-- The procedure of a scenario of one task. -/
def taskProcedure (polling : Polling) (endpoint : Endpoint) (payload : Payload)
    (evidence : Snapshot → Verdict) : Procedure (Except Failure Verdict) :=
  (Procedure.submitTask endpoint payload).bind fun
    | .error e => .done (refusal endpoint e)
    | .ok handle => (polling.poll handle).bind fun outcome => .done (.ok (judge evidence outcome))

theorem body_ofTask (name : String) (polling : Config → Polling) (endpoint : Endpoint)
    (payload : Config → Payload) (evidence : Snapshot → Verdict) (config : Config) :
    (ofTask name polling endpoint payload evidence).body config =
      Session.attempt (taskProcedure (polling config) endpoint (payload config) evidence) := by
  refine congrArg Session.attempt ((Procedure.bind_assoc _ _ _).trans ?_)
  refine congrArg _ (funext fun answer => ?_)
  cases answer with
  | error e => rfl
  | ok handle => exact Procedure.bind_assoc _ _ _

/-- The run of a scenario of one task: behind the submission it is the poll of the accepted task, with the verdict on
its outcome, and without an accepted task there is nothing behind it. -/
theorem run_taskProcedure (evidence : Snapshot → Verdict) :
    (taskProcedure polling endpoint payload evidence).run service now state =
      let submission := service.submit state .configured endpoint payload
      Run.after (.call (.submit endpoint payload) now)
        (match submission.1.answer with
        | .returns (.ok id) =>
          ((polling.poll ⟨id, endpoint, now⟩).run service (now + submission.1.delay) submission.2).map fun outcome =>
            .ok (judge evidence outcome)
        | .returns (.error e) => ⟨.returned (refusal endpoint e), now + submission.1.delay, submission.2, []⟩
        | .crashes text => ⟨.crashed (some text), now + submission.1.delay, submission.2, []⟩) :=
  Procedure.run_submitTask_poll service polling endpoint payload _ _ now state

theorem ending_taskProcedure (evidence : Snapshot → Verdict) :
    ((taskProcedure polling endpoint payload evidence).run service now state).ending =
      match (service.submit state .configured endpoint payload).1.answer with
      | .returns (.ok id) =>
        ((polling.poll ⟨id, endpoint, now⟩).run service
          (now + (service.submit state .configured endpoint payload).1.delay)
          (service.submit state .configured endpoint payload).2).ending.map fun outcome =>
            .ok (judge evidence outcome)
      | .returns (.error e) => .returned (refusal endpoint e)
      | .crashes text => .crashed (some text) := by
  rw [run_taskProcedure]
  dsimp only
  cases (service.submit state .configured endpoint payload).1.answer with
  | crashes text => rfl
  | returns result => cases result <;> rfl

/-- A scenario of one task passes if its task is accepted and polled to a success whose snapshot has the
evidence. -/
theorem passed_taskProcedure_iff (evidence : Snapshot → Verdict) :
    (Performance.verdictOf
        ((taskProcedure polling endpoint payload evidence).run service now state).ending).passed ↔
      ∃ id, (service.submit state .configured endpoint payload).1.answer = .returns (.ok id) ∧
        ∃ snapshot, polling.EndsInSuccess service ⟨id, endpoint, now⟩
            (now + (service.submit state .configured endpoint payload).1.delay)
            (service.submit state .configured endpoint payload).2 snapshot ∧
          (evidence snapshot).passed := by
  rw [ending_taskProcedure]
  match (service.submit state .configured endpoint payload).1.answer with
  | .crashes text => simp [Performance.verdictOf, Verdict.fail]
  | .returns (.error e) => simp [Performance.verdictOf, Verdict.fail, refusal]
  | .returns (.ok id) =>
    simp only [Answer.returns.injEq, Except.ok.injEq, exists_eq_left', Polling.EndsInSuccess]
    cases ((polling.poll ⟨id, endpoint, now⟩).run service _ _).ending with
    | crashed text => simp [Ending.map, Performance.verdictOf, Verdict.fail]
    | returned outcome =>
      refine (passed_judge_iff evidence outcome).trans ?_
      simp only [Ending.returned.injEq, exists_and_right]

end OneTask

/-- A scenario of one task passes on what its verdict asks of the body. -/
theorem passesOn_ofTask (name : String) (polling : Config → Polling) (endpoint : Endpoint)
    (payload : Config → Payload) {verdict : Snapshot → Verdict} {evidence : Json → Prop}
    (asks : ∀ snapshot, (verdict snapshot).passed ↔ evidence snapshot.payload) :
    PassesOn (ofTask name polling endpoint payload verdict) polling endpoint payload evidence := by
  intro σ service config now state submission
  simp only [← asks]
  rw [← passed_taskProcedure_iff, perform, body_ofTask]
  rfl

/-! ### What the verdicts ask for -/

/-- A verdict that is decided by a condition passes if the condition holds. -/
private theorem passed_ite (condition : Prop) [Decidable condition] (found missing : String) :
    (if condition then Verdict.pass found else .fail missing).passed ↔ condition := by
  split
  · next holds => exact iff_of_true rfl holds
  · next fails => exact iff_of_false Bool.false_ne_true fails

section Body

variable (snapshot : Snapshot)

/-- A pointer that leads through members finds content if there is some at those members. -/
theorem hasContent_iff {pointer : String} {names : List String}
    (leads : ∀ value : Json, value.pointer? pointer = value.at? names) :
    snapshot.hasContent pointer ↔ snapshot.payload.HasContentAt names := by
  rw [Snapshot.hasContent, Snapshot.field?, leads, Option.any_eq_true]
  simp only [Json.isContentful_iff, Json.HasContentAt]

theorem passed_contentEvidence_iff {pointer : String} {names : List String}
    (leads : ∀ value : Json, value.pointer? pointer = value.at? names) (what : String) :
    (contentEvidence pointer what snapshot).passed ↔ snapshot.payload.HasContentAt names := by
  rw [← hasContent_iff snapshot leads, contentEvidence]
  exact passed_ite _ _ _

theorem passed_titleEvidence_iff :
    (titleEvidence snapshot).passed ↔ snapshot.payload.HasContentAt ["content", "title"] := by
  have leads (value : Json) : value.pointer? "/content/title" = value.at? ["content", "title"] :=
    Json.foldlM_child?_eq_at? ["content", "title"] (by decide) value
  rw [← hasContent_iff snapshot leads, Snapshot.hasContent, titleEvidence]
  cases snapshot.field? "/content/title" with
  | none => exact iff_of_false Bool.false_ne_true Bool.false_ne_true
  | some title => exact passed_ite _ _ _

/-- A count that is no natural number, or none at all, counts as zero. -/
theorem passed_crawlEvidence_iff :
    (crawlEvidence snapshot).passed ↔
      ∃ n : UInt64, snapshot.payload.at? ["urls_crawled"] = some (.number (.natural n)) ∧ 0 < n := by
  have leads (value : Json) : value.pointer? "/urls_crawled" = value.at? ["urls_crawled"] :=
    Json.foldlM_child?_eq_at? ["urls_crawled"] (by decide) value
  refine (passed_ite _ _ _).trans ?_
  rw [Snapshot.field?, leads]
  match snapshot.payload.at? ["urls_crawled"] with
  | some (.number (.natural n)) => simp [Json.natural?]
  | none | some .null | some (.bool _) | some (.string _) | some (.array _) | some (.object _)
  | some (.number (.negative _)) | some (.number (.double _)) => simp [Json.natural?]

/-- What is no array counts as one without items. -/
theorem passed_searchEvidence_iff :
    (searchEvidence snapshot).passed ↔
      ∃ members rest, snapshot.payload.at? ["data", "web"] = some (.array (.object members :: rest)) ∧
        ∀ name ∈ ["title", "url", "snippet"], name ∈ members.map (·.1) := by
  have leads (value : Json) : value.pointer? "/data/web" = value.at? ["data", "web"] :=
    Json.foldlM_child?_eq_at? ["data", "web"] (by decide) value
  rw [searchEvidence, Snapshot.field?, leads]
  -- anything but a list with a first item fails, and so does an item that is no object
  match snapshot.payload.at? ["data", "web"] with
  | none | some .null | some (.bool _) | some (.string _) | some (.number _) | some (.object _) =>
    simp [Json.items?, Verdict.fail]
  | some (.array []) => simp [Json.items?, Verdict.fail]
  | some (.array (first :: rest)) =>
    refine (passed_ite _ _ _).trans ?_
    simp only [List.all_eq_true, Json.isSome_member?_iff, searchResultNames]
    constructor
    · intro complete
      obtain ⟨members, isObject, -⟩ := complete "title" List.mem_cons_self
      refine ⟨members, rest, by rw [isObject], fun name wanted => ?_⟩
      obtain ⟨members', same, among⟩ := complete name wanted
      obtain rfl : members = members' := Json.object.inj (isObject.symm.trans same)
      exact among
    · rintro ⟨members, rest', same, among⟩ name wanted
      cases same
      exact ⟨members, rfl, among name wanted⟩

end Body

/-! ### The six scenarios -/

/-- **No false verdict.** Each of the six scenarios passes on its own evidence, and on nothing less: content at a
title; a natural number of crawled URLs above zero; results of which the first is an object with all its names;
content in the data, or at its screenshot; and for a long crawl no more than its completion. The snapshot that
holds the evidence is the answer to the last status request for that task, and it says that the task is
completed; a snapshot that came before, or one of a task that was cancelled, is looked at by none of them. -/
theorem one_task_scenarios_pass_on_evidence :
    PassesOn scrapeBasic Config.pollingOf .scrape
      (fun config => .scrape (ScrapeRequest.withRule { url := config.load.targetUrl } "title" "title"))
      (Json.HasContentAt ["content", "title"]) ∧
    PassesOn crawlBasic Config.pollingOf .crawl
      (fun config => .crawl (CrawlRequest.breadthFirst config.load.targetUrl 1 10))
      (fun body => ∃ n : UInt64, body.at? ["urls_crawled"] = some (.number (.natural n)) ∧ 0 < n) ∧
    PassesOn searchBasic Config.pollingOf .search
      (fun _ => .search { query := "rust programming language", sources := some ["web"], limit := some 5 })
      (fun body => ∃ members rest, body.at? ["data", "web"] = some (.array (.object members :: rest)) ∧
        ∀ name ∈ ["title", "url", "snippet"], name ∈ members.map (·.1)) ∧
    PassesOn extractBasic Config.pollingOf .extract
      (fun config => .extract
        { urls := [config.load.targetUrl]
          prompt := some "Extract the page title and any headings (h1, h2, h3)" })
      (Json.HasContentAt ["data"]) ∧
    PassesOn scrapeScreenshot Config.pollingOf .scrape
      (fun config => .scrape (ScrapeRequest.withFormats { url := config.load.targetUrl } ["screenshot"]))
      (Json.HasContentAt ["data", "screenshot"]) ∧
    PassesOn crawlFull (fun config => config.pollingOf.doubled) .crawl
      (fun _ => .crawl
        { url := "https://httpbin.org/links/5/0", options := some { maxDepth := some 1, limit := some 10 } })
      (fun _ => True) ∧
    ∀ (σ : Type) (service : Service σ) (polling : Polling) (handle : Handle) (begun : Nanos) (state : σ) snapshot,
      polling.EndsInSuccess service handle begun state snapshot ↔
        let course := polling.course service handle begun state
        ∃ last, course.isDue last ∧ (course.replies last).answer = .returns (.ok snapshot) ∧
          snapshot.status = .completed ∧
          ∀ number < last, course.isDue number ∧
            ∃ answer, (course.replies number).answer = .returns answer ∧ Undecided answer := by
  -- the pointers are read as the members they lead to
  have data (value : Json) : value.pointer? "/data" = value.at? ["data"] :=
    Json.foldlM_child?_eq_at? ["data"] (by decide) value
  have screenshot (value : Json) : value.pointer? "/data/screenshot" = value.at? ["data", "screenshot"] :=
    Json.foldlM_child?_eq_at? ["data", "screenshot"] (by decide) value
  refine ⟨?_, ?_, ?_, ?_, ?_, ?_, ?_⟩
  · exact passesOn_ofTask _ _ _ _ passed_titleEvidence_iff
  · exact passesOn_ofTask _ _ _ _ passed_crawlEvidence_iff
  · exact passesOn_ofTask _ _ _ _ passed_searchEvidence_iff
  · exact passesOn_ofTask _ _ _ _ fun snapshot => passed_contentEvidence_iff snapshot data _
  · exact passesOn_ofTask _ _ _ _ fun snapshot => passed_contentEvidence_iff snapshot screenshot _
  · exact passesOn_ofTask _ _ _ _ fun snapshot => iff_of_true rfl trivial
  · exact fun σ service polling handle begun state => polling.endsInSuccess_iff service handle begun state

end Scenario

end ServiceProbe
