import Mathlib.Data.Nat.Find
import ServiceProbe.Proofs.Session.Requests
import ServiceProbe.Scenario.Catalogue
import ServiceProbe.Session.Script

/-!
# The first answer that settles a rate limit

While the rate limit is probed the service meets nothing but the same submission, again and again, so the replies can
be numbered in advance. What a reply means is a table: `ProbeDecides` lists the replies that end the probing, with
what the scenario comes to, and `PassedOver` those after which one more request is made. Every reply is in one of the
two (`decides_or_passedOver`) and in no more (`PassedOver.not_decides`).

A refusal is only as clear as its text, so the first table asks whether that text speaks of a rate limit
(`SpeaksOfRateLimit`), which is looked for in the error member of a JSON object or else in the whole.

* `Scenario.mentionsRateLimit_iff` — what is looked for, and where;
* `Scenario.runProbes_add` — any number of replies that are passed over;
* `Scenario.rateLimiting_stops_at_first_decisive` — the requests, the end and the instants of the scenario for any
  replies and any delays.
-/

namespace ServiceProbe

/-- The state of a service after so many probes and nothing else. -/
def Service.afterProbes {σ : Type} (service : Service σ) (state : σ) : Nat → σ
  | 0 => state
  | made + 1 => (service.submit (service.afterProbes state made) .configured .scrape Scenario.validProbe).2

namespace Run

variable {σ α : Type}

/-- The run with steps before it. -/
def afterSteps (steps : List Step) (run : Run σ α) : Run σ α :=
  { run with trace := steps ++ run.trace }

theorem afterSteps_after (steps : List Step) (step : Step) (run : Run σ α) :
    (run.after step).afterSteps steps = run.afterSteps (steps ++ [step]) :=
  congrArg (Run.mk _ _ _) (List.append_cons steps step run.trace)

end Run

namespace Scenario

/-! ### What a refusal speaks of -/

/-- The message is a JSON object, and the error member of the object is this text. What the reader refuses is no JSON
object. -/
def HasErrorText (message text : String) : Prop :=
  ∃ members, Json.read message = .ok (.object members) ∧ Entries.find? "error" members = some (.string text)

/-- The text that is searched: the error member, if it is a text, and the whole message in every other case. -/
inductive Searched (message : String) : String → Prop where
  | member {text : String} (h : HasErrorText message text) : Searched message text
  | whole (h : ∀ text, ¬ HasErrorText message text) : Searched message message

/-- The text that is searched holds the words in letters of either case. -/
def SpeaksOfRateLimit (message : String) : Prop :=
  ∃ text, Searched message text ∧ "rate limit".toList <:+: Text.lower text.toList

variable {message text text' : String}

theorem hasErrorText_iff :
    HasErrorText message text ↔
      ∃ value, Json.read message = .ok value ∧ (value.member? "error" >>= Json.text?) = some text := by
  constructor
  · rintro ⟨members, read, found⟩
    refine ⟨_, read, ?_⟩
    rw [Json.member?, found]
    rfl
  · rintro ⟨value, read, found⟩
    obtain ⟨held, member, isText⟩ := Option.bind_eq_some_iff.1 found
    -- only an object has members, and only a text is one
    cases value with
    | object members =>
      cases held with
      | string s =>
        cases isText
        exact ⟨members, read, member⟩
      | null | bool | number | array | object => cases isText
    | null | bool | number | string | array => cases member

theorem HasErrorText.unique (h : HasErrorText message text) (h' : HasErrorText message text') : text = text' := by
  obtain ⟨value, read, found⟩ := hasErrorText_iff.1 h
  obtain ⟨value', read', found'⟩ := hasErrorText_iff.1 h'
  cases read.symm.trans read'
  exact Option.some.inj (found.symm.trans found')

theorem Searched.unique (h : Searched message text) (h' : Searched message text') : text = text' := by
  cases h with
  | member has =>
    cases h' with
    | member has' => exact has.unique has'
    | whole none => exact absurd has (none text)
  | whole none =>
    cases h' with
    | member has' => exact absurd has' (none text')
    | whole => rfl

theorem searched_refusalText (message : String) : Searched message (refusalText message) := by
  unfold refusalText
  split
  · next value read =>
    -- the message is JSON: its error is searched if it is a text, and all of the message otherwise
    cases found : value.member? "error" >>= Json.text? with
    | some text => exact .member (hasErrorText_iff.2 ⟨value, read, found⟩)
    | none =>
      refine .whole fun text has => ?_
      obtain ⟨value', read', found'⟩ := hasErrorText_iff.1 has
      cases read.symm.trans read'
      cases found.symm.trans found'
  · next e unreadable =>
    refine .whole fun text has => ?_
    obtain ⟨value', read', -⟩ := hasErrorText_iff.1 has
    cases unreadable.symm.trans read'

/-- A refusal mentions a rate limit if the text that is searched speaks of it. -/
theorem mentionsRateLimit_iff (message : String) : mentionsRateLimit message = true ↔ SpeaksOfRateLimit message := by
  rw [mentionsRateLimit, Text.contains_iff]
  constructor
  · exact fun within => ⟨_, searched_refusalText message, within⟩
  · rintro ⟨text, searched, within⟩
    rwa [searched.unique (searched_refusalText message)] at within

/-! ### The meaning of a reply -/

/-- The reply to the request of this number ends the probing, and this is what the scenario comes to. -/
inductive ProbeDecides (number : Nat) : Answer String → ScenarioEnd → Prop where
  | limited {message : String} (speaks : SpeaksOfRateLimit message) :
    ProbeDecides number (.returns (.error (.creation 429 message)))
      (.returned (.ok (.pass s!"rate limited at request {number}")))
  | unclear {message : String} (silent : ¬ SpeaksOfRateLimit message) :
    ProbeDecides number (.returns (.error (.creation 429 message)))
      (.returned (.ok (.fail s!"429 at request {number} without a rate limit error: {message}")))
  | refused (status : Nat) (message : String) :
    ProbeDecides number (.returns (.error (.auth status message)))
      (.returned (.error (.error (.auth status message))))
  | breaksOff (text : String) : ProbeDecides number (.crashes text) (.crashed (some text))

/-- After the reply one more request is made, if one is left. -/
inductive PassedOver : Answer String → Prop where
  | accepted (id : String) : PassedOver (.returns (.ok id))
  | creation {status : Nat} (other : status ≠ 429) (message : String) :
    PassedOver (.returns (.error (.creation status message)))
  | api (status : Nat) (message : String) : PassedOver (.returns (.error (.api status message)))
  | http (fault : HttpFault) : PassedOver (.returns (.error (.http fault)))
  | serialization (cause : Json.SyntaxError) : PassedOver (.returns (.error (.serialization cause)))
  | config (fault : ConfigFault) : PassedOver (.returns (.error (.config fault)))
  | unknownStatus (word : String) : PassedOver (.returns (.error (.unknownStatus word)))
  | invalidResponse (field reason : String) : PassedOver (.returns (.error (.invalidResponse field reason)))
  | internal (message : String) : PassedOver (.returns (.error (.internal message)))

theorem decides_or_passedOver (number : Nat) (answer : Answer String) :
    (∃ result, ProbeDecides number answer result) ∨ PassedOver answer := by
  rcases answer with (e | id) | text
  · -- only a refused submission with code 429 and a refused credential decide among the errors
    cases e with
    | creation status message =>
      by_cases same : status = 429
      · subst same
        by_cases speaks : SpeaksOfRateLimit message
        · exact .inl ⟨_, .limited speaks⟩
        · exact .inl ⟨_, .unclear speaks⟩
      · exact .inr (.creation same message)
    | auth status message => exact .inl ⟨_, .refused status message⟩
    | api status message => exact .inr (.api status message)
    | http fault => exact .inr (.http fault)
    | serialization cause => exact .inr (.serialization cause)
    | config fault => exact .inr (.config fault)
    | unknownStatus word => exact .inr (.unknownStatus word)
    | invalidResponse field reason => exact .inr (.invalidResponse field reason)
    | internal message => exact .inr (.internal message)
  · exact .inr (.accepted id)
  · exact .inl ⟨_, .breaksOff text⟩

/-- No reply is both. -/
theorem PassedOver.not_decides {answer : Answer String} (h : PassedOver answer) (number : Nat)
    (result : ScenarioEnd) : ¬ ProbeDecides number answer result := by
  intro decides
  cases h with
  | creation other message =>
    cases decides with
    | limited | unclear => exact other rfl
  | accepted | api | http | serialization | config | unknownStatus | invalidResponse | internal => cases decides

/-! ### Probes by number -/

section Probes

variable {σ : Type} (service : Service σ) (begun : Nanos) (state : σ)

/-- The reply to the probe of a number, counted from zero. -/
def probeReply (number : Nat) : Reply String :=
  (service.submit (service.afterProbes state number) .configured .scrape validProbe).1

/-- The instant of the probe of a number: each follows the reply to the one before. -/
def probeTurn : Nat → Nanos
  | 0 => begun
  | number + 1 => probeTurn number + (probeReply service state number).delay

/-- The probe of a number. -/
def probed (number : Nat) : Step :=
  .call (.submit .scrape validProbe) (probeTurn service begun state number)

/-- The run of what is left to probe after so many probes. -/
def runProbes (made left : Nat) : Run σ (Except Failure Verdict) :=
  (probeRateLimit made left).run service (probeTurn service begun state made) (service.afterProbes state made)

/-- One probe: it is answered, and what follows depends on the answer. -/
theorem runProbes_succ (made left : Nat) :
    runProbes service begun state made (left + 1) =
      Procedure.continued service
        (fun answer =>
          match rateLimitDecision? (made + 1) answer with
          | some decision => .done decision
          | none => probeRateLimit (made + 1) left)
        { ending := (probeReply service state made).answer.ending.map
            (Except.map (Handle.mk · .scrape (probeTurn service begun state made)))
          finish := probeTurn service begun state (made + 1)
          state := service.afterProbes state (made + 1)
          trace := [probed service begun state made] } := by
  show Procedure.run service (Procedure.bind _ _) _ _ = _
  rw [Procedure.run_bind, Procedure.run_submitTask]
  rfl

variable {service begun state} {made left : Nat}

/-- A reply that is passed over is followed by the next probe. -/
theorem runProbes_of_passedOver (passed : PassedOver (probeReply service state made).answer) :
    runProbes service begun state made (left + 1) =
      (runProbes service begun state (made + 1) left).after (probed service begun state made) := by
  rw [runProbes_succ]
  generalize (probeReply service state made).answer = answer at passed
  cases passed with
  | @creation status other message =>
    -- a refusal with another code is no limit
    have silent : rateLimitDecision? (made + 1) (.error (.creation status message)) = none := by
      unfold rateLimitDecision?
      split
      · next same =>
        cases same
        exact absurd rfl other
      · next same => cases same
      · rfl
    simp only [Procedure.continued, Answer.ending, Ending.map, Except.map, silent]
    rfl
  | accepted | api | http | serialization | config | unknownStatus | invalidResponse | internal => rfl

/-- A reply that decides is the last. -/
theorem runProbes_of_decides {result : ScenarioEnd}
    (decides : ProbeDecides (made + 1) (probeReply service state made).answer result) :
    runProbes service begun state made (left + 1) =
      { ending := result
        finish := probeTurn service begun state (made + 1)
        state := service.afterProbes state (made + 1)
        trace := [probed service begun state made] } := by
  rw [runProbes_succ]
  generalize (probeReply service state made).answer = answer at decides
  -- a rejection decides whether it speaks of the limit or not, and so does whatever else ends it
  cases decides with
  | @limited message speaks =>
    have mentions := (mentionsRateLimit_iff message).2 speaks
    simp only [Procedure.continued, Answer.ending, Ending.map, Except.map, rateLimitDecision?, mentions, if_true]
    rfl
  | @unclear message silent =>
    have mentions : mentionsRateLimit message = false :=
      Bool.eq_false_iff.2 fun mentions => silent ((mentionsRateLimit_iff message).1 mentions)
    simp only [Procedure.continued, Answer.ending, Ending.map, Except.map, rateLimitDecision?, mentions]
    rfl
  | refused | breaksOff => rfl

/-- **Replies that are passed over.** They leave nothing but their requests behind. -/
theorem runProbes_add {count : Nat}
    (passed : ∀ number < count, PassedOver (probeReply service state number).answer) (left : Nat) :
    runProbes service begun state 0 (count + left) =
      (runProbes service begun state count left).afterSteps ((List.range count).map (probed service begun state)) := by
  -- the last of these probes is the first of those left to the ones before it
  induction count generalizing left with
  | zero => rw [Nat.zero_add]; rfl
  | succ count ih =>
    have last : PassedOver (probeReply service state count).answer := passed count (Nat.lt_succ_self count)
    have earlier := ih (fun number before => passed number (Nat.lt_succ_of_lt before)) (left + 1)
    rw [Nat.succ_add_eq_add_succ, earlier, runProbes_of_passedOver last, Run.afterSteps_after, List.range_succ,
      List.map_append]
    rfl

/-- The run of so many probes that ends like this. -/
def probesEnding (service : Service σ) (begun : Nanos) (state : σ) (made : Nat) (result : ScenarioEnd) :
    Run σ (Except Failure Verdict) :=
  { ending := result
    finish := probeTurn service begun state made
    state := service.afterProbes state made
    trace := (List.range made).map (probed service begun state) }

/-- A reply that decides, behind replies that are passed over, is the last. -/
theorem runProbes_of_first {last : Nat} {result : ScenarioEnd}
    (passed : ∀ number < last, PassedOver (probeReply service state number).answer)
    (decides : ProbeDecides (last + 1) (probeReply service state last).answer result) (left : Nat) :
    runProbes service begun state 0 (last + (left + 1)) = probesEnding service begun state (last + 1) result := by
  rw [runProbes_add passed, runProbes_of_decides decides, probesEnding, List.range_succ, List.map_append]
  rfl

/-- Where every reply is passed over, all the probes are made. -/
theorem runProbes_of_none {count : Nat}
    (passed : ∀ number < count, PassedOver (probeReply service state number).answer) :
    runProbes service begun state 0 count =
      probesEnding service begun state count (.returned (.ok (.fail "no 429 within 105 requests"))) := by
  have usedUp : runProbes service begun state count 0 =
      { ending := .returned (.ok (.fail "no 429 within 105 requests"))
        finish := probeTurn service begun state count
        state := service.afterProbes state count } := rfl
  refine (runProbes_add passed 0).trans ?_
  rw [usedUp, Run.afterSteps, List.append_nil, probesEnding]

end Probes

/-- **The first decisive answer.** Whatever the service answers to the probes and however long it takes, each probe is
made when the reply to the one before is there, at most 105 of them, and nothing else is asked for. The first reply
that is a refusal with the code 429 or one of the credential is the last: it decides what the scenario comes to, by
its number and its text, and the replies before it do not. If there is none among 105, all are made and the scenario
fails. A refusal mentions a rate limit if its error text does, and without such a text, if it does as a whole. -/
theorem rateLimiting_stops_at_first_decisive {σ : Type} (service : Service σ) (config : Config) (begun : Nanos)
    (state : σ) :
    let answer := fun number => (probeReply service state number).answer
    let played := (rateLimiting.body config).run service begun state
    (∃ made ≤ 105,
      played.trace =
        ((List.range made).map fun number =>
          .call (.submit .scrape validProbe) (probeTurn service begun state number)) ∧
      played.finish = probeTurn service begun state made ∧
      played.state = service.afterProbes state made ∧
      ((∃ last, made = last + 1 ∧ (∀ number < last, PassedOver (answer number)) ∧
          ProbeDecides made (answer last) played.result) ∨
        (made = 105 ∧ (∀ number < made, PassedOver (answer number)) ∧
          played.result = .returned (.ok (.fail "no 429 within 105 requests"))))) ∧
    ∀ message, mentionsRateLimit message = true ↔ SpeaksOfRateLimit message := by
  intro answer played
  refine ⟨?_, mentionsRateLimit_iff⟩
  have runs : played = _ := Session.run_attempt service (probeRateLimit 0 rateLimitRequests) begun state
  by_cases all : ∀ number < 105, PassedOver (answer number)
  · have run : (probeRateLimit 0 rateLimitRequests).run service begun state = _ := runProbes_of_none all
    rw [run] at runs
    rw [runs]
    exact ⟨105, Nat.le_refl _, rfl, rfl, rfl, .inr ⟨rfl, all, rfl⟩⟩
  · classical
    have other : ∃ number, number < 105 ∧ ¬ PassedOver (answer number) := by
      simpa only [not_forall, exists_prop] using all
    -- the first reply that is not passed over decides, and those before it are passed over
    obtain ⟨last, ⟨within, notPassed⟩, least⟩ := Nat.findX other
    have passed : ∀ number < last, PassedOver (answer number) := by
      intro number before
      by_contra notPassed
      exact least number before ⟨Nat.lt_trans before within, notPassed⟩
    obtain ⟨result, decides⟩ := (decides_or_passedOver (last + 1) (answer last)).resolve_right notPassed
    have run : (probeRateLimit 0 rateLimitRequests).run service begun state =
        probesEnding service begun state (last + 1) result := by
      obtain ⟨left, total⟩ := Nat.exists_eq_add_of_lt within
      rw [rateLimitRequests, total]
      exact runProbes_of_first passed decides left
    rw [run] at runs
    rw [runs]
    exact ⟨last + 1, within, rfl, rfl, rfl, .inl ⟨last, rfl, passed, decides⟩⟩

/-- Neither an acceptance nor an error with the same code that refuses no submission is decisive. -/
example :
    let service := Script.service
      { submission := Script.inTurn ⟨.returns (.error (.creation 429 "Rate Limit exceeded")), 0⟩
          [⟨.returns (.ok none), 3⟩, ⟨.returns (.error (.api 429 "rate limit")), 4⟩] }
    let played := (rateLimiting.body {}).run service 0 {}
    played.result = .returned (.ok (.pass "rate limited at request 3")) ∧ played.finish = 7 := by
  cbv

end Scenario

end ServiceProbe
