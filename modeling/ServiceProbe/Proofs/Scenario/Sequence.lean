import Mathlib.Data.List.Basic
import ServiceProbe.Proofs.Session.Clock
import ServiceProbe.Scenario.Runner
import ServiceProbe.Session.Script

/-!
# Scenarios one after the other

A runner performs scenarios one at a time. So where a scenario begins is settled by those before it: at the
instant at which the last of them ended, and in the state of the service that they left (`Scenario.turn`). What
is reported of a scenario is settled by its play from there, however the others end.

* `Scenario.tells_verdictOf` — what is told of the end of a scenario, whatever the end is;
* `Scenario.results_runAll` — a report has the results of the plays, in the order of the scenarios;
* `Scenario.Apart.result_eq` — the result of a scenario that shares no state of the service with the others is
  the one that it has by itself;
* `Scenario.runAll_reports_each_alone` — the two together, with what a change of one scenario does to the
  report.
-/

namespace ServiceProbe

/-! ### What is told of an end -/

/-- The texts of what caused an error, outermost first: a fault of HTTP with the causes of its own, or what was wrong
with a JSON text. Other errors have no cause. -/
inductive Error.CausedBy : Error → List String → Prop where
  | http (fault : HttpFault) : CausedBy (.http fault) (fault.message :: fault.causes)
  | serialization (cause : Json.SyntaxError) : CausedBy (.serialization cause) [cause.message]
  | nothing {e : Error} : (∀ fault, e ≠ .http fault) → (∀ cause, e ≠ .serialization cause) → CausedBy e []

/-- What is told of the end of a scenario: a verdict as it is, and in place of a verdict a failure that says
what there was instead. The contexts of a failure stand outermost first, and behind them stands what failed: a text, or
an error with what caused it. -/
inductive Tells : ScenarioEnd → Bool → String → Prop where
  | verdict (verdict : Verdict) : Tells (.returned (.ok verdict)) verdict.passed verdict.detail
  | message (contexts : List String) (text : String) :
    Tells (.returned (.error (contexts.foldr .within (.message text)))) false
      ("error: " ++ Text.joinWith ": " (contexts ++ [text]))
  | error (contexts : List String) {e : Error} {causes : List String} : e.CausedBy causes →
    Tells (.returned (.error (contexts.foldr .within (.error e)))) false
      ("error: " ++ Text.joinWith ": " (contexts ++ e.message :: causes))
  | crash (text : String) : Tells (.crashed (some text)) false ("panicked: " ++ text)
  | unknownCrash : Tells (.crashed none) false "panicked: unknown panic payload"

theorem Error.exists_causedBy (e : Error) : ∃ causes, e.CausedBy causes ∧ e.chain = e.message :: causes := by
  cases e with
  | http fault => exact ⟨_, .http fault, rfl⟩
  | serialization cause => exact ⟨_, .serialization cause, rfl⟩
  | _ => exact ⟨[], .nothing (by rintro _ ⟨⟩) (by rintro _ ⟨⟩), rfl⟩

namespace Failure

/-- The contexts around a cause stand before it. -/
theorem chain_foldr_within (contexts : List String) (cause : Failure) :
    (contexts.foldr within cause).chain = contexts ++ cause.chain := by
  induction contexts with
  | nil => rfl
  | cons context contexts ih => exact congrArg (context :: ·) ih

/-- Every failure is a message or an error in some contexts. -/
theorem exists_contexts (failure : Failure) :
    ∃ contexts : List String, (∃ text, failure = contexts.foldr within (message text)) ∨
      ∃ e, failure = contexts.foldr within (error e) := by
  induction failure with
  | message text => exact ⟨[], .inl ⟨text, rfl⟩⟩
  | error e => exact ⟨[], .inr ⟨e, rfl⟩⟩
  | within context cause ih =>
    obtain ⟨contexts, ⟨text, rfl⟩ | ⟨e, rfl⟩⟩ := ih
    · exact ⟨context :: contexts, .inl ⟨text, rfl⟩⟩
    · exact ⟨context :: contexts, .inr ⟨e, rfl⟩⟩

end Failure

namespace Scenario

/-- Whatever the end of a scenario is, the verdict that is reported tells it. -/
theorem tells_verdictOf (ending : ScenarioEnd) :
    Tells ending (Performance.verdictOf ending).passed (Performance.verdictOf ending).detail := by
  match ending with
  | .returned (.ok verdict) => exact .verdict verdict
  | .crashed (some text) => exact .crash text
  | .crashed none => exact .unknownCrash
  | .returned (.error failure) =>
    obtain ⟨contexts, ⟨text, rfl⟩ | ⟨e, rfl⟩⟩ := failure.exists_contexts
    · have told := Tells.message contexts text
      rwa [← show (Failure.message text).chain = [text] from rfl, ← Failure.chain_foldr_within] at told
    · obtain ⟨causes, caused, isChain⟩ := e.exists_causedBy
      have told := Tells.error contexts caused
      rwa [← isChain, ← show (Failure.error e).chain = e.chain from rfl, ← Failure.chain_foldr_within] at told

end Scenario

/-! ### Turns -/

/-- An instant and the state of a service then. -/
structure Moment (σ : Type) where
  instant : Nanos
  state : σ

theorem Session.bind_assoc {α β γ : Type} (session : Session α) (f : α → Session β) (g : β → Session γ) :
    (session.bind f).bind g = session.bind fun a => (f a).bind g := by
  induction session with
  | done result => rfl
  | clock next ih => exact congrArg Session.clock (funext ih)
  | print text next ih => exact congrArg (Session.print text) ih
  | health next ih => exact congrArg Session.health (funext ih)
  | perform procedure next ih => exact congrArg (Session.perform procedure) (funext ih)
  | batch workers count job next ih => exact congrArg (Session.batch workers count job) (funext ih)

namespace Scenario

variable {σ : Type} (service : Service σ) (config : Config)

/-- The play of a scenario from a moment on. -/
def play (scenario : Scenario) (moment : Moment σ) : Session.Played σ ScenarioEnd :=
  (scenario.body config).run service moment.instant moment.state

/-- The moment at which a scenario has ended that began at a moment. -/
def passing (moment : Moment σ) (scenario : Scenario) : Moment σ :=
  ⟨(scenario.play service config moment).finish, (scenario.play service config moment).state⟩

/-- The moment at which the scenario at a position begins: each one begins where the one before it ended. -/
def turn (scenarios : List Scenario) (begun : Moment σ) (position : Nat) : Moment σ :=
  (scenarios.take position).foldl (passing service config) begun

/-- How a scenario is performed that begins at a moment. -/
def performance (scenario : Scenario) (moment : Moment σ) : Performance :=
  { name := scenario.name
    verdict := Performance.verdictOf (scenario.play service config moment).result
    start := moment.instant
    finish := (scenario.play service config moment).finish }

/-- A scenario begins where the one before it has ended. -/
theorem turn_succ {scenarios : List Scenario} {position : Nat} {scenario : Scenario}
    (here : scenarios[position]? = some scenario) (begun : Moment σ) :
    turn service config scenarios begun (position + 1) =
      passing service config (turn service config scenarios begun position) scenario := by
  rw [turn, List.take_add_one, here, List.foldl_append]
  rfl

/-- The beginning of a scenario is settled by those before it. -/
theorem turn_congr {scenarios scenarios' : List Scenario} {position : Nat}
    (same : scenarios.take position = scenarios'.take position) (begun : Moment σ) :
    turn service config scenarios begun position = turn service config scenarios' begun position := by
  rw [turn, turn, same]

/-- One scenario is performed between two looks at the clock, and then the rest are. -/
theorem performAll_cons (scenario : Scenario) (rest : List Scenario) :
    performAll config (scenario :: rest) =
      .clock fun start => (scenario.body config).bind fun ending => .clock fun finish =>
        (performAll config rest).bind fun later =>
          .done ({ name := scenario.name, verdict := Performance.verdictOf ending, start, finish } :: later) :=
  congrArg Session.clock (funext fun _ => Session.bind_assoc (scenario.body config) _ _)

/-- A report is made of the performances when all have ended. -/
theorem runAll_eq_bind (scenarios : List Scenario) :
    runAll config scenarios = (performAll config scenarios).bind fun performances =>
      .done ⟨performances.map (·.result)⟩ :=
  rfl

/-- What a run makes of one scenario and of the rest. -/
theorem run_performAll_cons (scenario : Scenario) (rest : List Scenario) (begun : Moment σ) :
    (performAll config (scenario :: rest)).run service begun.instant begun.state =
      let played := scenario.play service config begun
      let later := (performAll config rest).run service played.finish played.state
      { result := scenario.performance service config begun :: later.result
        finish := later.finish
        state := later.state
        trace := played.trace ++ later.trace
        printed := played.printed ++ later.printed } := by
  -- reading the clock before the body and behind it takes no time
  rw [performAll_cons, Session.run, Session.run_bind]
  simp only [Session.continued, Session.run, Session.run_bind, Session.Played.afterSteps,
    Session.Played.afterText, List.append_nil, String.append_empty]
  rfl

/-- The performances are those of the scenarios from their turns on. -/
theorem result_performAll (scenarios : List Scenario) (begun : Moment σ) :
    ((performAll config scenarios).run service begun.instant begun.state).result =
      scenarios.mapIdx fun position scenario =>
        scenario.performance service config (turn service config scenarios begun position) := by
  induction scenarios generalizing begun with
  | nil => rfl
  | cons scenario rest ih =>
    rw [run_performAll_cons, List.mapIdx_cons]
    exact congrArg _ (ih (passing service config begun scenario))

/-- **The results of a report.** They are those of the scenarios from their turns on. -/
theorem results_runAll (scenarios : List Scenario) (begun : Moment σ) :
    ((runAll config scenarios).run service begun.instant begun.state).result.results =
      scenarios.mapIdx fun position scenario =>
        (scenario.performance service config (turn service config scenarios begun position)).result := by
  rw [runAll_eq_bind, Session.run_bind, Session.continued, result_performAll]
  refine List.ext_getElem? fun position => ?_
  change (List.map _ _)[position]? = _
  rw [List.getElem?_map, List.getElem?_mapIdx, List.getElem?_mapIdx, Option.map_map]
  rfl

/-! ### Changing one scenario -/

/-- A place behind the last scenario. -/
theorem turn_succ_of_none {scenarios : List Scenario} {position : Nat}
    (behind : scenarios[position]? = none) (begun : Moment σ) :
    turn service config scenarios begun (position + 1) = turn service config scenarios begun position := by
  rw [turn, List.take_add_one, behind, Option.toList_none, List.append_nil]
  rfl

/-- Where one scenario is replaced by another that ends at the same instant and leaves the same state, all
scenarios begin where they did. -/
theorem turn_set {scenarios : List Scenario} {place : Nat} {scenario scenario' : Scenario}
    (here : scenarios[place]? = some scenario) (begun : Moment σ)
    (same : passing service config (turn service config scenarios begun place) scenario' =
      passing service config (turn service config scenarios begun place) scenario) (position : Nat) :
    turn service config (scenarios.set place scenario') begun position =
      turn service config scenarios begun position := by
  induction position with
  | zero => rfl
  | succ position ih =>
    by_cases there : place = position
    · subst there
      have bound : place < scenarios.length := (List.getElem?_eq_some_iff.1 here).1
      rw [turn_succ service config (List.getElem?_set_self bound), turn_succ service config here, ih, same]
    · have kept := List.getElem?_set_ne (l := scenarios) there (a := scenario')
      cases other : scenarios[position]? with
      | none => rw [turn_succ_of_none service config (kept.trans other), turn_succ_of_none service config other, ih]
      | some next => rw [turn_succ service config (kept.trans other), turn_succ service config other, ih]

/-- **Scenarios that share no state of a service.** Each has a part of the state for itself. That part alone
decides how the scenario ends and how long it takes, whenever it begins, and no other scenario touches it. -/
structure Apart {τ : Type} (part : Nat → σ → τ) (scenarios : List Scenario) : Prop where
  decided : ∀ position scenario, scenarios[position]? = some scenario → ∀ moment moment' : Moment σ,
    part position moment.state = part position moment'.state →
      (scenario.play service config moment).result = (scenario.play service config moment').result ∧
        (scenario.play service config moment).finish - moment.instant =
          (scenario.play service config moment').finish - moment'.instant
  untouched : ∀ position scenario, scenarios[position]? = some scenario → ∀ moment other, other ≠ position →
    part other (scenario.play service config moment).state = part other moment.state

variable {service config}

namespace Apart

variable {τ : Type} {part : Nat → σ → τ} {scenarios : List Scenario} (apart : Apart service config part scenarios)

include apart

/-- At its turn a scenario finds its part as it was at the beginning. -/
theorem part_turn (begun : Moment σ) {position before : Nat} (sooner : before ≤ position) :
    part position (turn service config scenarios begun before).state = part position begun.state := by
  induction before with
  | zero => rfl
  | succ before ih =>
    rw [← ih (Nat.le_of_succ_le sooner)]
    cases here : scenarios[before]? with
    | none => rw [turn_succ_of_none service config here]
    | some scenario =>
      rw [turn_succ service config here]
      exact apart.untouched before scenario here _ position (Nat.ne_of_gt sooner)

/-- The result of a scenario is the one that it has by itself, begun at any instant. -/
theorem result_eq {position : Nat} {scenario : Scenario} (here : scenarios[position]? = some scenario)
    (begun : Moment σ) (instant : Nanos) :
    (scenario.performance service config (turn service config scenarios begun position)).result =
      (scenario.performance service config ⟨instant, begun.state⟩).result := by
  obtain ⟨ending, span⟩ := apart.decided position scenario here
    (turn service config scenarios begun position) ⟨instant, begun.state⟩
    (apart.part_turn begun (Nat.le_refl position))
  simp only [performance, Performance.result, ending, span]

end Apart

/-- Everything has passed if as many scenarios passed as there are. -/
theorem allPassed_iff (report : ScenarioReport) : report.allPassed ↔ report.passed = report.total := by
  rw [ScenarioReport.allPassed, ScenarioReport.passed, ScenarioReport.total, List.length_filter_eq_length_iff,
    List.all_eq_true]

variable (service config)

/-- **Scenarios run one at a time and fail alone.** For every list of scenarios there is one result for each,
in their order and under their names. Each scenario begins at the instant and in the state in which the one
before it ended, its result lasts from there to its own end, and tells that end: a verdict as it is, a failure
with its contexts, the error in them and what caused that, or the text with which it broke off. The results
before a scenario do not depend on it; those behind it do not where another scenario in its place ends at the
same instant and leaves the same state, and none of the others does where the scenarios share no state of the
service. A report says that all passed if the number of those that passed is the number of all. -/
theorem runAll_reports_each_alone (scenarios : List Scenario) (begun : Nanos) (state : σ) :
    let turn := turn service config scenarios ⟨begun, state⟩
    let report (scenarios : List Scenario) := ((runAll config scenarios).run service begun state).result
    (report scenarios).results.length = scenarios.length ∧
    turn 0 = ⟨begun, state⟩ ∧
    (∀ position scenario, scenarios[position]? = some scenario →
      let played := (scenario.body config).run service (turn position).instant (turn position).state
      turn (position + 1) = ⟨played.finish, played.state⟩ ∧ (turn position).instant ≤ played.finish ∧
      ∃ passed detail, Tells played.result passed detail ∧
        (report scenarios).results[position]? =
          some ⟨scenario.name, passed, detail, played.finish - (turn position).instant⟩) ∧
    (∀ position scenario',
      let changed := scenarios.set position scenario'
      (∀ other < position, (report changed).results[other]? = (report scenarios).results[other]?) ∧
      (∀ scenario, scenarios[position]? = some scenario →
        passing service config (turn position) scenario' = passing service config (turn position) scenario →
        ∀ other, other ≠ position → (report changed).results[other]? = (report scenarios).results[other]?) ∧
      ∀ {τ : Type} (part : Nat → σ → τ), Apart service config part scenarios →
        Apart service config part changed →
        ∀ other, other ≠ position → (report changed).results[other]? = (report scenarios).results[other]?) ∧
    ((report scenarios).allPassed ↔ (report scenarios).passed = (report scenarios).total) := by
  intro turn report
  have results (scenarios : List Scenario) (other : Nat) : (report scenarios).results[other]? =
      scenarios[other]?.map fun scenario => (scenario.performance service config
        (Scenario.turn service config scenarios ⟨begun, state⟩ other)).result :=
    (congrArg (·[other]?) (results_runAll service config scenarios ⟨begun, state⟩)).trans List.getElem?_mapIdx
  refine ⟨?_, rfl, fun position scenario here => ?_,
    fun position scenario' => ⟨fun other before => ?_, fun scenario here same other elsewhere => ?_,
      fun part apart apart' other elsewhere => ?_⟩, allPassed_iff _⟩
  · have length := congrArg List.length (results_runAll service config scenarios ⟨begun, state⟩)
    rwa [List.length_mapIdx] at length
  · intro played
    refine ⟨turn_succ service config here _, (Session.timely_run service _ _ _).begun_le, _, _,
      tells_verdictOf played.result, ?_⟩
    exact (results scenarios position).trans (by rw [here]; rfl)
  · rw [results, results, List.getElem?_set_ne (Nat.ne_of_gt before),
      turn_congr service config (List.take_set_of_le (Nat.le_of_lt before))]
  · rw [results, results, List.getElem?_set_ne elsewhere.symm, turn_set service config here _ same]
  · -- both results are the one that the scenario has by itself
    have kept := List.getElem?_set_ne (l := scenarios) elsewhere.symm (a := scenario')
    rw [results, results, kept]
    cases here : scenarios[other]? with
    | none => rfl
    | some scenario =>
      rw [Option.map_some, Option.map_some, apart.result_eq here _ begun, apart'.result_eq (kept.trans here) _ begun]

/-- A scenario that pauses, makes no request, and then ends. -/
def pausing (name : String) (span : Nanos) (ending : ScenarioEnd) : Scenario :=
  { name, body := fun _ => (Session.attempt (Procedure.wait span)).bind fun _ => .done ending }

/-- Scenarios that make no requests share no state of a service. -/
theorem apart_pausing {scenarios : List Scenario}
    (idle : ∀ scenario ∈ scenarios, ∃ name span ending, scenario = pausing name span ending) :
    Apart service config (fun _ _ => ()) scenarios := by
  refine ⟨fun position scenario here moment moment' _ => ?_, fun _ _ _ _ _ _ => rfl⟩
  obtain ⟨name, span, ending, rfl⟩ := idle scenario (List.mem_of_getElem? here)
  refine ⟨rfl, ?_⟩
  change moment.instant + span - moment.instant = moment'.instant + span - moment'.instant
  rw [Nat.add_sub_cancel_left, Nat.add_sub_cancel_left]

/-- A scenario that breaks off where another one passed, sooner, leaves the result behind it as it was: there a
request was lost, which is told down to what it was lost for. -/
theorem runAll_reports_each_alone_behind_crash :
    let lost : HttpFault := .unanswered "http://h/" ["tcp connect error"]
    let slow := pausing "slow" 70 (.returned (.error (.within "asking" (.error (.http lost)))))
    let quick := pausing "quick" 5 (.returned (.ok (.pass "fine")))
    let crashing := pausing "quick" 9 (.crashed (some "boom"))
    let results (scenarios : List Scenario) :=
      ((runAll {} scenarios).run (Script.service {}) 0 {}).result.results
    results [quick, slow] = [⟨"quick", true, "fine", 5⟩,
        ⟨"slow", false, "error: asking: HTTP request failed: error sending request for url (http://h/): " ++
          "error sending request for url (http://h/): tcp connect error", 70⟩] ∧
      (results [crashing, slow])[0]? = some ⟨"quick", false, "panicked: boom", 9⟩ ∧
      (results [crashing, slow])[1]? = (results [quick, slow])[1]? := by
  intro lost slow quick crashing results
  have idle (first : Scenario) (isIdle : ∃ name span ending, first = pausing name span ending) :
      Apart (Script.service {}) {} (fun _ _ => ()) [first, slow] := by
    refine apart_pausing _ _ fun scenario member => ?_
    rcases List.mem_cons.1 member with rfl | member
    · exact isIdle
    · exact ⟨_, _, _, List.mem_singleton.1 member⟩
  obtain ⟨-, -, -, changes, -⟩ := runAll_reports_each_alone (Script.service {}) {} [quick, slow] 0 {}
  obtain ⟨-, -, apart⟩ := changes 0 crashing
  exact ⟨rfl, rfl, apart (fun _ _ => ()) (idle quick ⟨_, _, _, rfl⟩) (idle crashing ⟨_, _, _, rfl⟩) 1 (by decide)⟩

end Scenario

end ServiceProbe
