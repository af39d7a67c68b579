import ServiceProbe.LoadTest
import ServiceProbe.Proofs.Config.Loaders
import ServiceProbe.Proofs.Http.Credential
import ServiceProbe.Proofs.Task.Course
import ServiceProbe.Session.Script

/-!
# What a validated configuration can be run with

Validation looks at the base URL, the endpoint and the numbers that must not be zero. To run with a
configuration takes more (`Config.Runnable`): the key has to be one that a header can hold, and the limit on the
time of a poll must leave room for its first pause. The time counts from the submission of a task, of which some has
passed when the poll begins, if only a moment; so what can be run depends on how long ago a task may have been
submitted that still counts as fresh.

* `Course.StopsAt.requests_pos_iff` — a poll makes a request exactly if its first attempt is due;
* `Config.head?_statusRequests` — so under a configuration with attempts, it depends on the limit alone;
* `Config.runnable_iff_of_validate` — what holds of every validated configuration, and which of them can be run.
-/

namespace ServiceProbe

/-! ### The first request of a poll -/

namespace Course

variable {course : Course} {last : Nat} {stop : Stop}

/-- A poll makes a request exactly if its first attempt is due. -/
theorem StopsAt.requests_pos_iff (h : course.StopsAt last stop) :
    0 < last + stop.spends ↔ course.isDue 0 = true := by
  constructor
  · intro made
    obtain ⟨attempts, inTime⟩ := h.within_limit made
    by_contra late
    rw [Bool.not_eq_true] at late
    rcases exhausted_of_not_due late with used | ⟨limit, limited, exhausted⟩
    · exact absurd attempts (Nat.not_lt.2 used)
    · exact absurd (inTime limit limited) (Nat.not_le.2 exhausted)
  · intro due
    by_contra none
    obtain ⟨rfl, silent⟩ : last = 0 ∧ stop.spends = 0 := by omega
    -- only a poll that gives up makes no request, and its attempt was not due
    cases stop with
    | givesUp => exact Bool.false_ne_true ((stop?_eq_givesUp_iff.1 h.stops).symm.trans due)
    | breaksOff text => cases silent
    | decides decision => cases silent

end Course

namespace Config

variable {config : Config}

/-- The requests of a poll under the configuration, begun so long after the submission of its task, with their
instants. -/
def statusRequests {σ : Type} (config : Config) (service : Service σ) (state : σ) (handle : Handle)
    (age : Nanos) : List (Call × Nanos) :=
  ((config.pollingOf.poll handle).run service (handle.submitted + age) state).trace.filterMap Step.call?

/-- A first pause, begun so long after the submission of a task, ends within the limit. -/
def HasTimeToAsk (config : Config) (age : Nanos) : Prop :=
  ∀ limit, config.pollingOf.maxWait = some limit → age + config.pollingOf.interval ≤ limit

/-- Of the requests of a poll the first one is made after one pause, if the limit leaves room for it; and else
there are none. -/
theorem head?_statusRequests {σ : Type} (attempts : config.polling.maxAttempts ≠ 0) (service : Service σ)
    (state : σ) (handle : Handle) (age : Nanos) :
    (config.HasTimeToAsk age → (config.statusRequests service state handle age).head? =
      some (.check handle.endpoint handle.id, handle.submitted + age + config.pollingOf.interval)) ∧
    (¬ config.HasTimeToAsk age → config.statusRequests service state handle age = []) := by
  let course := Polling.course service config.pollingOf handle (handle.submitted + age) state
  obtain ⟨last, stop, h, ran⟩ := Polling.exists_run_poll service config.pollingOf handle (handle.submitted + age) state
  have called : config.statusRequests service state handle age = _ :=
    (congrArg (·.trace.filterMap Step.call?) ran).trans (course.calls_run _ last stop)
  have notZero : 0 < course.polling.maxAttempts :=
    Nat.pos_of_ne_zero fun none => attempts (UInt32.toNat_inj.1 none)
  have since : course.elapsed 0 = age := Nat.add_sub_cancel_left _ _
  have due : course.isDue 0 = true ↔ config.HasTimeToAsk age := by
    rw [Course.isDue_iff, and_iff_right notZero, Polling.isExhausted, since]
    cases limited : config.pollingOf.maxWait with
    | none => simp [course, Polling.course, HasTimeToAsk, limited]
    | some limit => simp [course, Polling.course, HasTimeToAsk, limited]
  -- there is a first request exactly where the first attempt is due
  rw [called, ← due, ← h.requests_pos_iff]
  constructor
  · intro made
    obtain ⟨rest, isNext⟩ := Nat.exists_eq_succ_of_ne_zero made.ne'
    rw [isNext, List.range_succ_eq_map]
    rfl
  · intro none
    rw [Nat.eq_zero_of_not_pos none]
    rfl

/-! ### Validation -/

/-- The key can stand in a header: it has no control character but the tab. -/
def HasSendableKey (config : Config) : Prop :=
  ∀ c ∈ config.api.apiKey.toList, Client.isControl c → c = '\t'

/-- What it takes to run with a configuration: there is a client for the service and a plan for a load test, and
the poll of a fresh task, one that was submitted no longer ago than that, asks for its status. -/
structure Runnable (config : Config) (fresh : Nanos) : Prop where
  client : ∃ client, Client.make (ClientSettings.ofApi config.api) = .ok client
  plan : ∃ plan, LoadPlan.ofConfig config = .ok plan
  asks : ∀ {σ : Type} (service : Service σ) (state : σ) (handle : Handle), ∀ age ≤ fresh,
    ∃ instant, (.check handle.endpoint handle.id, instant) ∈ config.statusRequests service state handle age

/-- A token is made of the key unless that is empty, so an empty key is no obstacle. -/
theorem hasSendableKey_iff :
    config.HasSendableKey ↔
      ((ClientSettings.ofApi config.api).token.all fun token => token.toList.all Client.isHeaderChar) = true := by
  have each : config.HasSendableKey ↔ config.api.apiKey.toList.all Client.isHeaderChar = true := by
    rw [HasSendableKey, List.all_eq_true]
    refine forall₂_congr fun c _ => ?_
    rw [Client.isHeaderChar_iff]
    tauto
  rw [each, ClientSettings.ofApi]
  by_cases empty : config.api.apiKey.isEmpty
  · obtain none : config.api.apiKey = "" := String.isEmpty_iff.1 empty
    simp [none]
  · simp [empty]

/-- A client can be made exactly if the key can be sent; the rest was validated. -/
theorem make_of_validate (valid : config.validate = .ok ()) :
    (config.HasSendableKey → ∃ client, Client.make (ClientSettings.ofApi config.api) = .ok client) ∧
    (¬ config.HasSendableKey →
      Client.make (ClientSettings.ofApi config.api) = .error (.config .invalidToken)) := by
  obtain ⟨-, ⟨url, isUrl⟩, -⟩ := validate_eq_ok_iff.1 valid
  have read : Url.parse (ClientSettings.ofApi config.api).baseUrl.toList = .ok url := isUrl
  rw [hasSendableKey_iff, Client.make, read]
  constructor
  · intro sendable
    exact ⟨_, if_pos sendable⟩
  · intro other
    exact if_neg other

/-- The plan of a load test is that of the configuration. -/
theorem ofConfig_of_validate (valid : config.validate = .ok ()) :
    ∃ endpoint, Endpoint.parse config.load.endpoint = .ok endpoint ∧
      LoadPlan.ofConfig config =
        .ok { endpoint
              count := config.load.concurrency.toNat
              workers := config.load.workerBudget.toNat
              polling := config.pollingOf
              summary := config.summaryOptions } := by
  obtain ⟨-, -, -, -, -, endpoint, isEndpoint⟩ := validate_eq_ok_iff.1 valid
  refine ⟨endpoint, isEndpoint, ?_⟩
  rw [LoadPlan.ofConfig, isEndpoint]
  rfl

/-- The first pause ends within the limit if the limit is no shorter than the pause with the time before it. -/
theorem hasTimeToAsk_iff {age : Nanos} :
    config.HasTimeToAsk age ↔ ∀ limit, config.polling.maxWaitMillis = some limit →
      age + Nanos.ofMillis config.polling.intervalMillis.toNat ≤ Nanos.ofMillis limit.toNat := by
  rw [HasTimeToAsk, pollingOf]
  cases config.polling.maxWaitMillis with
  | none => simp
  | some limit => simp

theorem HasTimeToAsk.of_le {age age' : Nanos} (sooner : age' ≤ age) (inTime : config.HasTimeToAsk age) :
    config.HasTimeToAsk age' :=
  fun limit limited => Nat.le_trans (Nat.add_le_add_right sooner _) (inTime limit limited)

/-- **Validated configurations.** Each has a plan for load tests. There is a client for its service exactly if its
key can be sent, and a poll makes its first request after one pause, if the limit on its time leaves room for that
pause, and otherwise none at all. So it can be run exactly if the key can be sent and no limit is shorter than a
pause and the time before it for which a task is fresh, and validation does not see to either. -/
theorem runnable_iff_of_validate (valid : config.validate = .ok ()) :
    (∃ endpoint, Endpoint.parse config.load.endpoint = .ok endpoint ∧
      LoadPlan.ofConfig config =
        .ok { endpoint
              count := config.load.concurrency.toNat
              workers := config.load.workerBudget.toNat
              polling := config.pollingOf
              summary := config.summaryOptions }) ∧
    (config.HasSendableKey → ∃ client, Client.make (ClientSettings.ofApi config.api) = .ok client) ∧
    (¬ config.HasSendableKey →
      Client.make (ClientSettings.ofApi config.api) = .error (.config .invalidToken)) ∧
    (∀ {σ : Type} (service : Service σ) (state : σ) (handle : Handle) (age : Nanos),
      (config.HasTimeToAsk age → (config.statusRequests service state handle age).head? =
        some (.check handle.endpoint handle.id, handle.submitted + age + config.pollingOf.interval)) ∧
      (¬ config.HasTimeToAsk age → config.statusRequests service state handle age = [])) ∧
    ∀ fresh, config.Runnable fresh ↔ config.HasSendableKey ∧
      ∀ limit, config.polling.maxWaitMillis = some limit →
        fresh + Nanos.ofMillis config.polling.intervalMillis.toNat ≤ Nanos.ofMillis limit.toNat := by
  obtain ⟨-, -, -, attempts, -⟩ := validate_eq_ok_iff.1 valid
  have planned := ofConfig_of_validate valid
  obtain ⟨made, refused⟩ := make_of_validate valid
  refine ⟨planned, made, refused, head?_statusRequests attempts, fun fresh => ?_⟩
  rw [← hasTimeToAsk_iff]
  constructor
  · rintro ⟨⟨client, isClient⟩, -, asks⟩
    constructor
    · by_contra other
      rw [refused other] at isClient
      cases isClient
    · by_contra late
      -- the requests do not depend on the service, so any one shows that there are none
      obtain ⟨instant, member⟩ := asks (Script.service {}) {} ⟨"", .scrape, 0⟩ fresh (Nat.le_refl fresh)
      rw [(head?_statusRequests attempts _ _ _ fresh).2 late] at member
      cases member
  · rintro ⟨sendable, inTime⟩
    obtain ⟨endpoint, -, isPlan⟩ := planned
    refine ⟨made sendable, ⟨_, isPlan⟩, fun service state handle age isFresh => ?_⟩
    have first := (head?_statusRequests attempts service state handle age).1 (inTime.of_le isFresh)
    exact ⟨_, List.mem_of_head? first⟩

/-- A configuration with a key, whose limit leaves room for one pause and a second before it. -/
def briefConfig : Config :=
  { api := { apiKey := "secret" }, polling := { intervalMillis := 500, maxWaitMillis := some 1500 } }

/-- It can be run with tasks that were submitted up to a second ago, and with no others. -/
theorem runnable_of_validate_brief :
    briefConfig.validate = .ok () ∧ briefConfig.Runnable (Nanos.ofMillis 1000) ∧
      ¬ briefConfig.Runnable (Nanos.ofMillis 1000 + 1) := by
  have valid : briefConfig.validate = .ok () := eq_ok_of_toOption (by decide +kernel)
  have runnable := (runnable_iff_of_validate valid).2.2.2.2
  refine ⟨valid, (runnable _).2 ⟨?_, ?_⟩, fun other => ?_⟩
  · exact hasSendableKey_iff.2 (by decide +kernel)
  · rintro limit same
    obtain rfl : 1500 = limit := Option.some.inj same
    decide
  · exact absurd (((runnable _).1 other).2 1500 rfl) (by decide)

/-- A key with a line break, and a limit that is shorter than a pause, pass validation. With the one there is no
client, and with the other no task is ever asked for. -/
theorem not_runnable_of_validate :
    (({ api := { apiKey := "a\nb" } } : Config).validate = .ok () ∧
      Client.make (ClientSettings.ofApi { apiKey := "a\nb" }) = .error (.config .invalidToken)) ∧
    ({ polling := { maxWaitMillis := some 1000 } } : Config).validate = .ok () ∧
      ({ polling := { maxWaitMillis := some 1000 } } : Config).statusRequests (Script.service {}) {}
        ⟨"t-1", .scrape, 0⟩ 0 = [] := by
  have valid : ({ api := { apiKey := "a\nb" } } : Config).validate = .ok () :=
    eq_ok_of_toOption (by decide +kernel)
  have valid' : ({ polling := { maxWaitMillis := some 1000 } } : Config).validate = .ok () :=
    eq_ok_of_toOption (by decide +kernel)
  refine ⟨⟨valid, (make_of_validate valid).2 fun sendable => ?_⟩, valid', ?_⟩
  · exact absurd (sendable '\n' (by decide) (by decide)) (by decide)
  · refine (head?_statusRequests (by decide) _ _ _ 0).2 fun inTime => ?_
    exact absurd (hasTimeToAsk_iff.1 inTime 1000 rfl) (by decide)

end Config

end ServiceProbe
