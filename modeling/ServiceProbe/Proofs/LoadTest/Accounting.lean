import Mathlib.Algebra.GroupWithZero.Nat
import Mathlib.Algebra.Order.BigOperators.Group.List
import Mathlib.Algebra.Order.Group.Nat
import ServiceProbe.Proofs.LoadTest.Submissions
import ServiceProbe.Proofs.Pool.Attribution
import ServiceProbe.Proofs.Session.Record
import ServiceProbe.Proofs.Task.Steps
import ServiceProbe.Session.Script

/-!
# The requests and the log of a load test

An invocation can stop while its payload is made, at its submission or in its poll, by an error or by breaking off.
Where it stops decides which requests it makes, whether the log tells of its end and what is reported for it.
`LoadPlan.Accounted` says how the three go together for one index, and `LoadPlan.Accounts` what that makes of a
whole load test.

* `LoadPlan.accounted_spell` — the spell of an invocation, whatever the service answers;
* `LoadPlan.load_test_accounts` — a load test, whether its invocations share a service or not, as long as there is a
  channel for its reports.
-/

namespace ServiceProbe

/-- The report that the log makes with a step, if it tells of the end of an invocation. -/
def Step.report? : Step → Option Report
  | event (.invocationOutcome index outcome) _ => some ⟨index, outcome⟩
  | _ => none

/-- A poll leaves it to others to log what is reported. -/
theorem Polling.Asks.reports {σ : Type} {polling : Polling} {handle : Handle} {run : Run σ Outcome}
    (asks : polling.Asks handle run) : run.trace.filterMap Step.report? = [] := by
  refine List.filterMap_eq_nil_iff.2 fun step member => ?_
  obtain ⟨instant, rfl⟩ | ⟨operation, instant, rfl⟩ := asks.steps step member <;> rfl

theorem Run.eq_event_of_mem_log {σ : Type} {index : Nat} {polled : Run σ Outcome} {step : Step}
    (member : step ∈ polled.log index) :
    ∃ outcome, step = .event (.invocationOutcome index outcome) polled.finish := by
  rw [log] at member
  cases ending : polled.ending with
  | returned outcome =>
    rw [ending] at member
    exact ⟨outcome, List.mem_singleton.1 member⟩
  | crashed text =>
    rw [ending] at member
    exact absurd member List.not_mem_nil

/-- Nothing is submitted to log an outcome. -/
theorem Run.submissions_log {σ : Type} (index : Nat) (polled : Run σ Outcome) :
    (polled.log index).filter Step.isSubmission = [] := by
  refine List.filter_eq_nil_iff.2 fun step member => ?_
  obtain ⟨outcome, rfl⟩ := eq_event_of_mem_log member
  exact Bool.false_ne_true

/-- Nothing is asked for to log an outcome. -/
theorem Run.isCheck_of_mem_log {σ : Type} {index : Nat} {polled : Run σ Outcome} {step : Step}
    (member : step ∈ polled.log index) : ¬ step.isCheck = true := by
  obtain ⟨outcome, rfl⟩ := eq_event_of_mem_log member
  exact Bool.false_ne_true

namespace LoadPlan

variable {τ : Type} (plan : LoadPlan) (payloads : PayloadSource) (service : Service τ) (state : τ)

/-! ### One index -/

/-- The id of the task for an index, if there is a payload and its submission is accepted. -/
def acceptedId? (index : Nat) : Option String :=
  match payloads index with
  | .error _ => none
  | .ok payload => (service.submit state .configured plan.endpoint payload).1.accepted?

/-- The task for an index, submitted at an instant, is accepted, and its poll returns an outcome. -/
def PollReturns (index : Nat) (start : Nanos) (outcome : Outcome) : Prop :=
  ∃ payload id, payloads index = .ok payload ∧
    (service.submit state .configured plan.endpoint payload).1.answer = .returns (.ok id) ∧
    ((plan.polling.poll ⟨id, plan.endpoint, start⟩).run service
      (start + (service.submit state .configured plan.endpoint payload).1.delay)
      (service.submit state .configured plan.endpoint payload).2).ending = .returned outcome

/-- **The account of one index**, whose invocation meets the service in a state: its requests, what the log tells of
it and its outcome. -/
structure Accounted (spell : Spell) : Prop where
  /-- Without a payload nothing is submitted. -/
  unbuilt : ∀ text, payloads spell.index = .error text → spell.trace.filter Step.isSubmission = []
  /-- A payload is submitted once, when the invocation gets its worker. -/
  submits : ∀ payload, payloads spell.index = .ok payload → ∃ start, spell.start = some start ∧
    spell.trace.filter Step.isSubmission = [.call (.submit plan.endpoint payload) start]
  /-- Without an accepted task there is nothing to ask for, and the outcome says so. -/
  unaccepted : plan.acceptedId? payloads service state spell.index = none →
    spell.trace.countP Step.isCheck = 0 ∧ spell.outcome.kind = .transportError
  /-- Status requests are for the accepted task. -/
  checks : ∀ step ∈ spell.trace, step.isCheck = true → ∃ id instant,
    plan.acceptedId? payloads service state spell.index = some id ∧ step = .call (.check plan.endpoint id) instant
  checks_le : spell.trace.countP Step.isCheck ≤ plan.polling.maxAttempts
  /-- A time-out tells of all of them. -/
  timedOut : ∀ attempts latency, spell.outcome = .timedOut attempts latency →
    spell.trace.countP Step.isCheck = attempts
  /-- A poll that returns is logged once, as it is reported. -/
  logged : ∀ start outcome, spell.start = some start →
    plan.PollReturns payloads service state spell.index start outcome →
      spell.outcome = outcome ∧ spell.trace.filterMap Step.report? = [spell.report]
  /-- Any other invocation is reported without being logged. -/
  silent : (∀ start outcome, spell.start = some start →
    ¬ plan.PollReturns payloads service state spell.index start outcome) →
      spell.trace.filterMap Step.report? = []

variable {plan payloads service state} {index : Nat}

/-- An invocation whose payload broke off. -/
theorem accounted_unbuilt {text : Option String} (source : payloads index = .error text) (begun : Nanos) :
    plan.Accounted payloads service state ⟨index, none, begun, .crashed text, []⟩ where
  unbuilt _ _ := rfl
  submits payload source' := by cases source.symm.trans source'
  unaccepted _ := ⟨rfl, rfl⟩
  checks _ member := absurd member List.not_mem_nil
  checks_le := Nat.zero_le _
  timedOut _ _ timedOut := by cases timedOut
  logged start outcome starts := by cases starts
  silent _ := rfl

/-- An invocation whose submission is not accepted, by an error or by breaking off. -/
theorem accounted_unaccepted {payload : Payload} (source : payloads index = .ok payload)
    (refused : (service.submit state .configured plan.endpoint payload).1.accepted? = none)
    {ending : InvocationEnd} (ends : (∃ e, ending = .returned (.error e)) ∨ ∃ text, ending = .crashed text)
    (start finish : Nanos) :
    plan.Accounted payloads service state
      ⟨index, some start, finish, ending, [.call (.submit plan.endpoint payload) start]⟩ where
  unbuilt text source' := by cases source.symm.trans source'
  submits payload' source' := by
    cases source.symm.trans source'
    exact ⟨start, rfl, rfl⟩
  unaccepted _ := by
    obtain ⟨e, rfl⟩ | ⟨text, rfl⟩ := ends <;> exact ⟨rfl, rfl⟩
  checks step member isCheck := by
    cases List.mem_singleton.1 member
    cases isCheck
  checks_le := Nat.zero_le _
  timedOut attempts latency timedOut := by
    obtain ⟨e, rfl⟩ | ⟨text, rfl⟩ := ends <;> cases timedOut
  logged start' outcome _ returns := by
    obtain ⟨payload', id, source', accepted, -⟩ := returns
    cases source.symm.trans source'
    rw [Reply.accepted?, accepted] at refused
    cases refused
  silent _ := rfl

/-- The poll of an accepted task, from the state that its submission leaves. -/
theorem pollReturns_iff {payload : Payload} (source : payloads index = .ok payload) {id : String}
    (accepted : (service.submit state .configured plan.endpoint payload).1.answer = .returns (.ok id))
    (start : Nanos) (outcome : Outcome) :
    plan.PollReturns payloads service state index start outcome ↔
      ((plan.polling.poll ⟨id, plan.endpoint, start⟩).run service
        (start + (service.submit state .configured plan.endpoint payload).1.delay)
        (service.submit state .configured plan.endpoint payload).2).ending = .returned outcome := by
  constructor
  · rintro ⟨payload', id', source', accepted', returned⟩
    cases source.symm.trans source'
    cases accepted.symm.trans accepted'
    exact returned
  · exact fun returned => ⟨payload, id, source, accepted, returned⟩

/-- An invocation whose task is accepted. -/
theorem accounted_accepted {payload : Payload} (source : payloads index = .ok payload) {id : String}
    (accepted : (service.submit state .configured plan.endpoint payload).1.answer = .returns (.ok id))
    (start : Nanos) :
    let polled := (plan.polling.poll ⟨id, plan.endpoint, start⟩).run service
      (start + (service.submit state .configured plan.endpoint payload).1.delay)
      (service.submit state .configured plan.endpoint payload).2
    plan.Accounted payloads service state
      ⟨index, some start, polled.finish, .ofEnding (polled.ending.map .ok),
        .call (.submit plan.endpoint payload) start :: (polled.trace ++ polled.log index)⟩ := by
  intro polled
  have asks : plan.polling.Asks ⟨id, plan.endpoint, start⟩ polled := Polling.asks_poll service _ _ _ _
  have isAccepted : plan.acceptedId? payloads service state index = some id := by
    rw [acceptedId?, source]
    exact congrArg (fun answer => Reply.accepted? ⟨answer, _⟩) accepted
  have returns_iff := pollReturns_iff source accepted start
  -- all the status requests of the invocation are those of its poll
  have count (first : Step) (notCheck : first.isCheck = false) :
      (first :: (polled.trace ++ polled.log index)).countP Step.isCheck = polled.trace.countP Step.isCheck := by
    rw [List.countP_cons_of_neg (by rw [notCheck]; exact Bool.false_ne_true), List.countP_append,
      List.countP_eq_zero.2 fun step member => Run.isCheck_of_mem_log member, Nat.add_zero]
  refine ⟨?_, ?_, ?_, ?_, ?_, ?_, ?_, ?_⟩
  · -- nothing is left unbuilt, since the payload is there
    intro text source'
    cases source.symm.trans source'
  · intro payload' source'
    cases source.symm.trans source'
    -- neither the poll nor what is logged behind it has a submission
    refine ⟨start, rfl, ?_⟩
    rw [List.filter_cons_of_pos rfl, List.filter_append, asks.submissions, Run.submissions_log]
    rfl
  · intro refused
    cases isAccepted.symm.trans refused
  · -- a status request is about the task that was accepted
    intro step member isCheck
    rcases List.mem_cons.1 member with rfl | later
    · cases isCheck
    · rcases List.mem_append.1 later with among | among
      · obtain ⟨instant, rfl⟩ | ⟨operation, instant, rfl⟩ := asks.steps step among
        · exact ⟨id, instant, isAccepted, rfl⟩
        · exact absurd isCheck Bool.false_ne_true
      · exact absurd isCheck (Run.isCheck_of_mem_log among)
  · rw [count _ rfl]
    exact asks.checks_le
  · -- the attempts of a poll that times out are its status requests
    intro attempts latency timedOut
    rw [count _ rfl]
    cases ending : polled.ending with
    | returned outcome =>
      rw [ending] at timedOut
      obtain rfl : outcome = .timedOut attempts latency := timedOut
      exact asks.timedOut attempts latency ending
    | crashed text =>
      rw [ending] at timedOut
      cases timedOut
  · -- one event of the poll and one for the task, or none of either where the poll breaks off
    intro start' outcome starts returns
    obtain rfl : start = start' := Option.some.inj starts
    have ending := (returns_iff outcome).1 returns
    rw [List.filterMap_cons_none rfl, List.filterMap_append, asks.reports, Run.log, ending]
    exact ⟨rfl, rfl⟩
  · intro silent
    rw [List.filterMap_cons_none rfl, List.filterMap_append, asks.reports, Run.log]
    cases ending : polled.ending with
    | returned outcome => exact absurd ((returns_iff outcome).2 ending) (silent start outcome rfl)
    | crashed text => rfl

/-- **The account of any index**, whenever its invocation gets a worker and whatever it meets. -/
theorem accounted_spell (plan : LoadPlan) (payloads : PayloadSource) (service : Service τ) (state : τ) (index : Nat)
    (begun start : Nanos) :
    plan.Accounted payloads service state ((plan.job payloads index).spell service begun index start state) := by
  rw [job]
  cases source : payloads index with
  | error text => exact accounted_unbuilt source begun
  | ok payload =>
    rw [Job.spell, run_invocation]
    dsimp only
    -- where the invocation stops depends on the answer to its submission
    cases answer : (service.submit state .configured plan.endpoint payload).1.answer with
    | crashes text =>
      exact accounted_unaccepted source (by rw [Reply.accepted?, answer]) (.inr ⟨_, rfl⟩) start _
    | returns result =>
      cases result with
      | error e =>
        exact accounted_unaccepted source (by rw [Reply.accepted?, answer]) (.inl ⟨e, rfl⟩) start _
      | ok id => exact accounted_accepted source answer start

/-- The log tells of an index once, as it is reported, or never. -/
theorem Accounted.log_cases {spell : Spell} (h : plan.Accounted payloads service state spell) :
    spell.trace.filterMap Step.report? = [spell.report] ∨ spell.trace.filterMap Step.report? = [] := by
  by_cases returns : ∃ start outcome, spell.start = some start ∧
      plan.PollReturns payloads service state spell.index start outcome
  · obtain ⟨start, outcome, starts, returned⟩ := returns
    exact .inl (h.logged start outcome starts returned).2
  · exact .inr (h.silent fun start outcome starts returned => returns ⟨start, outcome, starts, returned⟩)

/-! ### The whole load test -/

variable {σ : Type}

/-- **The account of a load test**, by its report and its steps: one spell for each index, each with its account, and
nothing besides. The service for an index and the state in which its invocation meets it are given. -/
structure Accounts (plan : LoadPlan) (payloads : PayloadSource) (services : Nat → Service τ) (met : Nat → τ)
    (spells : List Spell) (report : LoadReport) (trace : List Step) : Prop where
  indices : spells.map (·.index) = List.range plan.count
  each : ∀ spell ∈ spells, plan.Accounted payloads (services spell.index) (met spell.index) spell
  reports : report.reports.Perm (spells.map Spell.report)
  /-- The steps are those of the spells, merged. -/
  steps : trace.Perm (spells.flatMap (·.trace))
  checks : trace.countP Step.isCheck = (spells.map fun spell => spell.trace.countP Step.isCheck).sum
  checks_le : trace.countP Step.isCheck ≤ plan.count * plan.polling.maxAttempts
  /-- What the log says of an index comes from its own spell. -/
  log : ∀ spell ∈ spells, (trace.filterMap Step.report?).filter (·.index == spell.index) =
    spell.trace.filterMap Step.report?

/-- Of things that are listed under distinct numbers, those with one number are listed together. -/
theorem filter_flatMap_of_nodup {α β : Type} {number : α → Nat} {number' : β → Nat} {listed : α → List β}
    {entries : List α} (distinct : (entries.map number).Nodup)
    (own : ∀ entry ∈ entries, ∀ item ∈ listed entry, number' item = number entry) {entry : α}
    (member : entry ∈ entries) :
    (entries.flatMap listed).filter (number' · == number entry) = listed entry := by
  induction entries with
  | nil => exact absurd member List.not_mem_nil
  | cons first rest ih =>
    rw [List.map_cons, List.nodup_cons] at distinct
    have ownLater := fun entry member => own entry (List.mem_cons_of_mem _ member)
    rw [List.flatMap_cons, List.filter_append]
    -- the entry is the first one, and nothing behind it has its number, or it is behind the first one
    rcases List.mem_cons.1 member with rfl | later
    · have here : (listed entry).filter (number' · == number entry) = listed entry :=
        List.filter_eq_self.2 fun item among => beq_iff_eq.2 (own entry List.mem_cons_self item among)
      have elsewhere : (rest.flatMap listed).filter (number' · == number entry) = [] := by
        refine List.filter_eq_nil_iff.2 fun item among => ?_
        obtain ⟨other, otherMember, itemMember⟩ := List.mem_flatMap.1 among
        rw [beq_iff_eq, ownLater other otherMember item itemMember]
        exact fun same => distinct.1 (same ▸ List.mem_map_of_mem otherMember)
      rw [here, elsewhere, List.append_nil]
    · have here : (listed first).filter (number' · == number entry) = [] := by
        refine List.filter_eq_nil_iff.2 fun item among => ?_
        rw [beq_iff_eq, own first List.mem_cons_self item among]
        exact fun same => distinct.1 (same ▸ List.mem_map_of_mem later)
      rw [here, List.nil_append]
      exact ih distinct.2 ownLater later

/-- What the spells of a load test do makes up the account of the whole. -/
theorem Accounts.of_spells {services : Nat → Service τ} {met : Nat → τ} {spells : List Spell} {report : LoadReport}
    {trace : List Step} (indices : spells.map (·.index) = List.range plan.count)
    (each : ∀ spell ∈ spells, plan.Accounted payloads (services spell.index) (met spell.index) spell)
    (reports : report.reports.Perm (spells.map Spell.report)) (steps : trace.Perm (spells.flatMap (·.trace))) :
    plan.Accounts payloads services met spells report trace := by
  have checks : trace.countP Step.isCheck = (spells.map fun spell => spell.trace.countP Step.isCheck).sum := by
    rw [steps.countP_eq, List.countP_flatMap]
    rfl
  refine ⟨indices, each, reports, steps, checks, ?_, fun spell member => ?_⟩
  · have length : spells.length = plan.count := by
      rw [← List.length_map (·.index), indices, List.length_range]
    have bound := List.sum_le_card_nsmul (spells.map fun spell => spell.trace.countP Step.isCheck)
      plan.polling.maxAttempts (List.forall_mem_map.2 fun spell member => (each spell member).checks_le)
    rw [List.length_map, length] at bound
    rw [checks]
    exact bound
  · -- an entry of the log bears the index of the spell that it comes from, and no two spells have one
    have distinct : (spells.map (·.index)).Nodup := indices ▸ List.nodup_range
    have own : ∀ spell ∈ spells, ∀ entry ∈ spell.trace.filterMap Step.report?, entry.index = spell.index := by
      intro spell member entry among
      rcases (each spell member).log_cases with once | never
      · rw [once] at among
        rw [List.mem_singleton.1 among, Spell.report]
      · rw [never] at among
        exact absurd among List.not_mem_nil
    have merged := (steps.filterMap Step.report?).filter (·.index == spell.index)
    rw [List.filterMap_flatMap, filter_flatMap_of_nodup distinct own member] at merged
    -- there is at most one, so that the order in which the steps are merged has no say
    rcases (each spell member).log_cases with once | never
    · rw [once] at merged ⊢
      exact List.perm_singleton.1 merged
    · rw [never] at merged ⊢
      exact List.perm_nil.1 merged

/-- The account of a pool whose invocations do the jobs of a load test. -/
theorem Accounts.of_pool {services : Nat → Service τ} {met : Nat → τ} {invocation : Nat → Invocation σ} {begun : Nanos}
    {state : σ}
    (turn : ∀ index start,
      (invocation index).spell begun index start
          (Pool.run plan.workers begun state ((List.range index).map invocation)).state =
        (plan.job payloads index).spell (services index) begun index start (met index)) (wallTime : Nanos) :
    let pool := Pool.run plan.workers begun state ((List.range plan.count).map invocation)
    plan.Accounts payloads services met pool.spells (LoadReport.of plan pool.reports wallTime)
      (Session.batchTrace pool.spells) := by
  refine .of_spells ?_ ?_ (Pool.run_reports_perm _ _ _ _) (List.mergeSort_perm _ _)
  · rw [Pool.index_run_spells, List.length_map, List.length_range]
  · intro spell member
    obtain ⟨index, _, start, here, -, rfl⟩ := Pool.exists_turn_of_mem _ _ _ member
    rw [List.getElem?_map, Option.map_eq_some_iff] at here
    -- in a list of so many invocations the place of one is its number
    obtain ⟨number, numbered, rfl⟩ := here
    obtain ⟨within, isIndex⟩ := List.getElem?_eq_some_iff.1 numbered
    obtain rfl : index = number := (List.getElem_range within).symm.trans isIndex
    rw [List.length_range] at within
    rw [← List.map_take, List.take_range, Nat.min_eq_left (Nat.le_of_lt within), turn]
    have account := plan.accounted_spell payloads (services index) (met index) index begun start
    have own : ((plan.job payloads index).spell (services index) begun index start (met index)).index = index := by
      cases plan.job payloads index <;> rfl
    rw [own]
    exact account

/-- **Requests, log and outcomes of a load test.** Unless both the number of invocations and that of workers are out of
all proportion, a load test ends with a report, and whether its invocations share a service or each has its own, they
go together as the account says. An invocation meets a shared service in the state that those of the indices before it
leave. Otherwise the load test breaks off, and there is neither a request nor an entry of the log. -/
theorem load_test_accounts (plan : LoadPlan) (payloads : PayloadSource) (service : Service σ) (state : σ)
    (services : Nat → Service τ) (initial : Nat → τ) (begun : Nanos) :
    let pool (count : Nat) := Pool.run plan.workers begun state
      ((List.range count).map fun index => (plan.job payloads index).shared service)
    let play := (plan.session payloads).run service begun state
    let playApart := plan.playApart payloads services initial begun
    (plan.count < 2 ^ 61 ∨ plan.workers < 2 ^ 60 →
      (∃ report, play.result = .returned report ∧
        plan.Accounts payloads (fun _ => service) (fun index => (pool index).state) (pool plan.count).spells report
          play.trace) ∧
      ∃ poolApart report, plan.poolApart payloads services initial begun = .returned poolApart ∧
        playApart.result = .returned report ∧
        plan.Accounts payloads services initial poolApart.spells report playApart.trace) ∧
    (2 ^ 61 ≤ plan.count → 2 ^ 60 ≤ plan.workers →
      play.result = .crashed (some Pool.noChannel) ∧ play.trace = [] ∧
        playApart.result = .crashed (some Pool.noChannel) ∧ playApart.trace = []) := by
  intro pool play apart
  have isPlay : play = plan.playOf begun state _ := plan.run_session payloads service begun state
  have isApart : apart = plan.playOf begun () (plan.poolApart payloads services initial begun) := rfl
  -- both ways to run a load test differ in the services of its invocations alone
  rw [isPlay, isApart, poolApart]
  refine ⟨fun proportionate => ?_, fun many wide => ?_⟩
  · have channel : Pool.HasChannel plan.workers plan.count := Pool.hasChannel_iff.2 proportionate
    rw [Pool.launch_of_hasChannel channel, Pool.launch_of_hasChannel channel]
    refine ⟨⟨_, rfl, ?_⟩, _, _, rfl, rfl, ?_⟩
    · exact Accounts.of_pool (fun index start => Job.spell_shared _ _ _ _ _ _) _
    · exact Accounts.of_pool (fun index start => Job.spell_alone _ _ begun index start _ _) _
  · rw [Pool.launch_of_excessive many wide, Pool.launch_of_excessive many wide]
    exact ⟨rfl, rfl, rfl, rfl⟩

/-- A load test of so many tasks, of which only the first has a payload, and each of which has a service of its own. -/
def firstOnly (count workers : Nat) : Session.Played Unit (Ending LoadReport) :=
  { endpoint := .search, count, workers : LoadPlan }.playApart
    (fun index => if index = 0 then .ok (.raw .null) else .error none) (fun _ => ({} : Script).service) (fun _ => {}) 0

/-- Of two such tasks one is submitted and asked for. -/
theorem load_test_accounts_of_two :
    (2 < 2 ^ 61 ∨ 1 < 2 ^ 60) ∧ ∃ report, (firstOnly 2 1).result = .returned report ∧
      (report.reports.map (·.index)).Perm [0, 1] ∧ (firstOnly 2 1).trace.countP Step.isCheck ≤ 2 * 30 := by
  have proportionate : 2 < 2 ^ 61 ∨ 1 < 2 ^ 60 := by decide
  obtain ⟨-, pool, report, -, returns, accounts⟩ :=
    (load_test_accounts { endpoint := .search, count := 2, workers := 1 }
      (fun index => if index = 0 then .ok (.raw .null) else .error none) ({} : Script).service {}
      (fun _ => ({} : Script).service) (fun _ => {}) 0).1 proportionate
  refine ⟨proportionate, report, returns, ?_, accounts.checks_le⟩
  have indices := accounts.reports.map (·.index)
  rwa [List.map_map, show Report.index ∘ Spell.report = Spell.index from rfl, accounts.indices] at indices

/-- With 2⁶¹ of them and 2⁶⁰ workers not even the first is submitted. -/
theorem load_test_submits_nothing :
    (firstOnly (2 ^ 61) (2 ^ 60)).trace.filter Step.isSubmission = [] ∧
      ∀ report, (firstOnly (2 ^ 61) (2 ^ 60)).result ≠ .returned report := by
  have crashes : firstOnly (2 ^ 61) (2 ^ 60) =
      { result := .crashed (some Pool.noChannel), finish := 0, state := () } := by
    rw [firstOnly, playApart, poolApart, Pool.launch_of_excessive (by decide) (by decide)]
    rfl
  rw [crashes]
  exact ⟨rfl, fun report returns => by cases returns⟩

end LoadPlan

end ServiceProbe
