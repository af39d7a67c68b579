import ServiceProbe.Proofs.CommandLine.Commands
import ServiceProbe.Proofs.Http.Sending

/-!
# The exit code

What the program does before it asks the service for anything can stop it in three ways: there is no configuration
(`Arguments.Configured`), there is no log file in a directory that is there (`LoggingSettings.LacksFile`), or there is
no client. Otherwise it ends as its session does (`Finished.Ends`), and all that is to be shown of the code and of the
requests can be read off the session. A load test without a channel breaks the session off.

What has been sent is known from a network that notes it. The health check is the first request because the note only
grows (`Client.moves_noting`), and what a load test submits is what is posted in it (`Client.tallies_noting`).

* `Arguments.configuration_eq_ok_iff` — when there is a configuration, and which;
* `Surroundings.run_of_unconfigured`, `Surroundings.run_of_lacksFile`, `Surroundings.run_of_no_client`,
  `Surroundings.run_of_client` — the program, by how far it comes;
* `Finished.Ends.of_scenarios`, `Finished.Ends.of_load` — what the commands leave behind;
* `Surroundings.run_exits_as_asked` — the code and the requests of the whole program, over any network.
-/

namespace ServiceProbe

open Http
open Config (Loader)

/-- The code of a program that was not stopped says whether something holds: 0 if it does, and 1 if it does not. -/
structure Finished.ExitsBy {σ : Type} (finished : Finished σ) (p : Prop) : Prop where
  success : p → finished.code = 0
  failure : ¬ p → finished.code = 1

/-- The program has ended as its session did. -/
structure Finished.Ends {σ : Type} (finished : Finished σ) (played : Session.Played σ (Ending Bool)) : Prop where
  code : finished.code = played.result.exitCode
  state : finished.state = played.state
  trace : finished.trace = played.trace

/-- A program whose session came to a verdict exits by it. -/
theorem Finished.exitsBy_of_code {σ : Type} {finished : Finished σ} {succeeded : Bool} {p : Prop}
    (code : finished.code = (Ending.returned succeeded).exitCode) (isVerdict : succeeded = true ↔ p) :
    finished.ExitsBy p := by
  refine ⟨fun holds => ?_, fun fails => ?_⟩
  · rw [code, isVerdict.2 holds]
    rfl
  · rw [code, Bool.eq_false_iff.2 (mt isVerdict.1 fails)]
    rfl

/-! ### Before the service is asked -/

namespace Arguments

/-- The way in which the arguments have the configuration loaded. -/
def loader (arguments : Arguments) : Loader :=
  match arguments.config with
  | some path => .file path
  | none => .standard

/-- A configuration with the base URL of the arguments, if there is one among them. -/
def addressed (arguments : Arguments) (config : Config) : Config :=
  { config with api := { config.api with baseUrl := arguments.baseUrl.getD config.api.baseUrl } }

variable {arguments : Arguments} {environment : Config.Environment} {files : Config.Files} {config : Config}

/-- The configuration is the one that is loaded, with the base URL of the arguments. It has to be valid with that. -/
theorem configuration_eq_ok_iff :
    arguments.configuration environment files = .ok config ↔
      (∃ loaded, arguments.loader.load environment files = .ok loaded ∧ arguments.addressed loaded = config) ∧
        config.validate = .ok () := by
  cases given : arguments.baseUrl with
  | none =>
    -- what is loaded is valid already
    have opened : arguments.configuration environment files = arguments.loader.load environment files := by
      obtain ⟨path, baseUrl, skipHealth, command⟩ := arguments
      subst given
      cases path <;> exact bind_pure _
    have same (loaded : Config) : arguments.addressed loaded = loaded := by rw [addressed, given]; rfl
    rw [opened]
    constructor
    · intro load
      exact ⟨⟨config, load, same config⟩, Loader.validate_of_load load⟩
    · rintro ⟨⟨loaded, load, rfl⟩, -⟩
      rw [same, load]
  | some baseUrl =>
    have opened : arguments.configuration environment files =
        (arguments.loader.load environment files >>= fun loaded =>
          (arguments.addressed loaded).validate >>= fun _ => .ok (arguments.addressed loaded)) := by
      obtain ⟨path, _, skipHealth, command⟩ := arguments
      subst given
      cases path <;> rfl
    rw [opened]
    constructor
    · intro isConfig
      obtain ⟨loaded, load, isConfig⟩ := Url.exists_of_bind_eq_ok isConfig
      obtain ⟨_, valid, isConfig⟩ := Url.exists_of_bind_eq_ok isConfig
      obtain rfl := Except.ok.inj isConfig
      exact ⟨⟨loaded, load, rfl⟩, valid⟩
    · rintro ⟨⟨loaded, load, rfl⟩, valid⟩
      rw [load]
      show ((arguments.addressed loaded).validate >>= fun _ => .ok (arguments.addressed loaded)) = _
      rw [valid]
      rfl

/-- There is a configuration, and it is valid with the base URL of the arguments. -/
structure Configured (arguments : Arguments) (around : Surroundings) (config : Config) : Prop where
  loads : ∃ loaded, arguments.loader.load around.environment around.files = .ok loaded ∧
    arguments.addressed loaded = config
  valid : config.validate = .ok ()

end Arguments

/-- A log file is asked for in a directory that is there, but in which it cannot be made. -/
def LoggingSettings.LacksFile (settings : LoggingSettings) (openLog : String → LogOpening) : Prop :=
  ∃ directory, settings.logDir = some directory ∧ openLog directory = .noFile

theorem LoggingSettings.start?_eq_none_iff {settings : LoggingSettings} {openLog : String → LogOpening} :
    settings.start? openLog = none ↔ settings.LacksFile openLog := by
  rw [start?, LacksFile]
  cases settings.logDir with
  | none => simp
  | some directory => cases opened : openLog directory <;> simp [opened]

namespace Surroundings

variable {τ : Type} {around : Surroundings} {arguments : Arguments} {config : Config} {client : Client}
  (wellFormed : Arguments.parse around.arguments = .ok arguments) (openLog : String → LogOpening)
  (network : Network τ) (state : τ) (runId : String)

include wellFormed

/-- Without a configuration the service is left as it is. -/
theorem run_of_unconfigured (unconfigured : ∀ config, ¬ arguments.Configured around config) :
    (around.run openLog network state runId).code = 1 ∧ (around.run openLog network state runId).state = state := by
  rw [run, Launch.of, wellFormed]
  dsimp only
  cases configured : arguments.configuration around.environment around.files with
  | error e => exact ⟨rfl, rfl⟩
  | ok config =>
    obtain ⟨loads, valid⟩ := Arguments.configuration_eq_ok_iff.1 configured
    exact absurd ⟨loads, valid⟩ (unconfigured config)

section configured

variable (configured : arguments.Configured around config)
include configured

theorem launch_of_configured :
    Launch.of around = .configured arguments config (Client.make (ClientSettings.ofApi config.api)) := by
  have isConfig := Arguments.configuration_eq_ok_iff.2 ⟨configured.loads, configured.valid⟩
  rw [Launch.of, wellFormed]
  dsimp only
  rw [isConfig]

/-- Without a log file where there should be one the program breaks off. -/
theorem run_of_lacksFile (lacks : config.logging.LacksFile openLog) :
    (around.run openLog network state runId).code = 101 ∧
      (around.run openLog network state runId).state = state := by
  rw [run, launch_of_configured wellFormed configured]
  dsimp only
  rw [LoggingSettings.start?_eq_none_iff.2 lacks]
  exact ⟨rfl, rfl⟩

variable (logs : ¬ config.logging.LacksFile openLog)
include logs

/-- Without a client the service is left as it is. -/
theorem run_of_no_client (unmade : ∀ client, Client.make (ClientSettings.ofApi config.api) ≠ .ok client) :
    (around.run openLog network state runId).code = 1 ∧ (around.run openLog network state runId).state = state := by
  obtain ⟨log, started⟩ := Option.ne_none_iff_exists'.1 (mt LoggingSettings.start?_eq_none_iff.1 logs)
  rw [run, launch_of_configured wellFormed configured]
  dsimp only
  rw [started]
  cases made : Client.make (ClientSettings.ofApi config.api) with
  | error e => exact ⟨rfl, rfl⟩
  | ok client => exact absurd made (unmade client)

/-- What is left is the session against the service of the client. -/
theorem run_of_client (made : Client.make (ClientSettings.ofApi config.api) = .ok client) :
    (around.run openLog network state runId).Ends
      ((arguments.session config client runId).run (client.service network) 0 state) := by
  obtain ⟨log, started⟩ := Option.ne_none_iff_exists'.1 (mt LoggingSettings.start?_eq_none_iff.1 logs)
  rw [run, launch_of_configured wellFormed configured]
  dsimp only
  rw [started, made]
  exact ⟨rfl, rfl, rfl⟩

end configured

end Surroundings

/-! ### What the commands leave behind -/

/-- **What scenarios leave behind.** They were run one after the other, and the code says whether all passed. -/
structure Finished.OfScenarios {σ : Type} (finished : Finished σ) (scenarios : List Scenario)
    (played : Session.Played σ ScenarioReport) : Prop where
  state : finished.state = played.state
  trace : finished.trace = played.trace
  names : played.result.results.map (·.name) = scenarios.map (·.name)
  code : finished.ExitsBy (∀ result ∈ played.result.results, result.passed = true)

/-- What an invocation of a load test submits: where to go and what to do there, or for a search the index. -/
def lightBody (endpoint : Endpoint) (url : String) (index : Nat) : Json :=
  match endpoint with
  | .scrape =>
    .ofMembers [("url", .string url), ("task_type", .string "scrape"),
      ("payload", .ofMembers [("extract_rules", .ofMembers
        [("title", .ofMembers [("selector", .string "title"), ("is_array", .bool false)])])])]
  | .crawl =>
    .ofMembers [("url", .string url), ("crawler_options", .ofMembers
      [("max_depth", .ofNat 1), ("limit", .ofNat 10), ("strategy", .string "bfs")])]
  | .search => .ofMembers [("query", .string s!"load test {index}"), ("limit", .ofNat 1)]
  | .extract => .ofMembers [("urls", .array [.string url]), ("prompt", .string "Extract the page title")]

theorem encode_forLoad (endpoint : Endpoint) (url : String) (index : Nat) :
    (Payload.forLoad endpoint url index).encode = lightBody endpoint url index := by
  cases endpoint <;> rfl

/-- The request for a light payload is the one for its body. -/
theorem Client.requestOf?_forLoad (client : Client) (endpoint : Endpoint) (url : String) (index : Nat) :
    client.requestOf? (.call (.submit endpoint (Payload.forLoad endpoint url index))) =
      client.requestOf? (.call (.submit endpoint (.raw (lightBody endpoint url index)))) := by
  rw [← encode_forLoad]
  rfl

/-- **What a load test leaves behind.** Each index was invoked and reported once, no more at a time than the budget
allows for; its body was posted, and nothing else was; and the code says whether all invocations succeeded. -/
structure Finished.OfLoad {τ : Type} (finished : Finished (τ × List Request)) (client : Client) (config : Config)
    (plan : LoadPlan) (url : String) (pool : PoolRun (τ × List Request)) : Prop where
  state : finished.state = pool.state
  trace : finished.trace = Session.batchTrace pool.spells
  indices : (pool.reports.map (·.index)).Perm (List.range plan.count)
  atOnce : ∀ instant, Pool.inFlight pool.spells instant ≤ max 1 plan.workers
  posts : (Request.posts finished.state.2).Perm
    ((List.range plan.count).filterMap fun index =>
      client.requestOf? (.call (.submit plan.endpoint (.raw (lightBody plan.endpoint url index)))))
  code : finished.ExitsBy (∀ report ∈ pool.reports,
    report.outcome.kind = .success ∨
      report.outcome.kind = .cancelled ∧ config.load.cancelledCountsAsSuccess = true)

/-! ### The whole -/

namespace Finished

namespace Ends

variable {σ : Type} {finished : Finished σ} {arguments : Arguments} {config : Config} {client : Client}
  {runId : String} {service : Service σ} {state : σ}
  (ends : finished.Ends ((arguments.session config client runId).run service 0 state))
include ends

theorem of_unwell (asks : arguments.asksHealth = true) (unwell : (service.health state).1 = false) :
    finished.code = 1 ∧ finished.state = (service.health state).2 := by
  obtain ⟨result, left⟩ := arguments.run_session_of_unwell config client runId service 0 state asks unwell
  exact ⟨ends.code.trans (congrArg Ending.exitCode result), ends.state.trans left⟩

theorem of_health (isHealth : arguments.command = .health) :
    finished.code = (Ending.returned (service.health state).1).exitCode ∧
      finished.state = (service.health state).2 := by
  obtain ⟨result, left⟩ := arguments.run_session_of_health config client runId service 0 state isHealth
  exact ⟨ends.code.trans (congrArg Ending.exitCode result), ends.state.trans left⟩

theorem onward {onward : σ → σ → Prop} (moves : service.Moves onward) (asks : arguments.asksHealth = true) :
    onward (service.health state).2 finished.state := by
  rw [ends.state]
  exact arguments.moves_session_of_asks config client runId service 0 state moves asks

variable (well : arguments.asksHealth = true → (service.health state).1 = true)
include well

/-- Where the service is well, or is not asked, the command decides. -/
theorem of_command (other : arguments.command ≠ .health) :
    finished.Ends ((arguments.command.session config runId).run service 0 (arguments.begun service state)) := by
  obtain ⟨result, left, steps⟩ :=
    arguments.run_session_of_command config client runId service 0 state other well
  exact ⟨ends.code.trans (congrArg Ending.exitCode result), ends.state.trans left, ends.trace.trans steps⟩

/-- The chosen scenarios were run. -/
theorem of_scenarios {only : List String} (isScenarios : arguments.command = .scenarios only) :
    let chosen := Scenario.standard.filter fun scenario =>
      only = [] ∨ ∃ fragment ∈ only, fragment.toList <:+: scenario.name.toList
    finished.OfScenarios chosen
      ((Scenario.runAll config chosen).run service 0 (arguments.begun service state)) := by
  intro chosen
  have other : arguments.command ≠ .health := by
    rw [isScenarios]
    nofun
  have commanded := ends.of_command well other
  rw [isScenarios] at commanded
  have run := Command.run_scenarios service config runId 0 (arguments.begun service state) only
  rw [Scenario.selected_eq] at run
  obtain ⟨result, left, steps⟩ := run
  refine ⟨commanded.state.trans left, commanded.trace.trans steps, Scenario.names_runAll service config chosen 0 _, ?_⟩
  exact Finished.exitsBy_of_code (commanded.code.trans (congrArg Ending.exitCode result)) List.all_eq_true

omit ends well in
/-- The load test of the command line was run, or broke off before it began. -/
theorem of_load {τ : Type} {finished : Finished (τ × List Request)} {service : Service (τ × List Request)}
    {state : τ × List Request}
    (ends : finished.Ends ((arguments.session config client runId).run service 0 state))
    (well : arguments.asksHealth = true → (service.health state).1 = true)
    (tallies : service.Tallies (fun state => Request.posts state.2)
      fun endpoint payload => client.requestOf? (.call (.submit endpoint payload)))
    (fresh : Request.posts (arguments.begun service state).2 = []) (valid : config.validate = .ok ())
    {options : LoadOptions} (isLoad : arguments.command = .load options) :
    ∃ endpoint, Endpoint.parse config.load.endpoint = .ok endpoint ∧
      let plan := options.planOver config endpoint
      let launched := Pool.launch plan.workers 0 (arguments.begun service state) plan.count fun index =>
        (plan.job (options.payloads config plan) index).shared service
      (∀ pool, launched = .returned pool →
        finished.OfLoad client config plan (options.url.getD config.load.targetUrl) pool) ∧
      ∀ text, launched = .crashed text →
        finished.code = 101 ∧ finished.state = arguments.begun service state := by
  have other : arguments.command ≠ .health := by
    rw [isLoad]
    nofun
  have commanded := ends.of_command well other
  rw [isLoad] at commanded
  obtain ⟨endpoint, isEndpoint, isPlan⟩ := options.plan_of_validate valid
  refine ⟨endpoint, isEndpoint, ?_⟩
  intro plan launched
  obtain ⟨returned, crashed⟩ := Command.run_load service config runId 0 (arguments.begun service state) isPlan
  refine ⟨fun pool isPool => ?_, fun text isCrash => ?_⟩
  · obtain ⟨result, left, steps⟩ := returned pool isPool
    obtain ⟨-, isRun⟩ := Pool.launch_eq_returned_iff.1 isPool
    -- each invocation posts one body, whether it is accepted or not
    have posted := plan.tally_launch tallies _ isPool
    simp only [fresh, List.nil_append, client.requestOf?_forLoad] at posted
    refine ⟨commanded.state.trans left, commanded.trace.trans steps, LoadPlan.indices_launch isPool, ?_, ?_, ?_⟩
    · rw [← isRun]
      exact Pool.inFlight_run_le plan.workers 0 _ _
    · rw [commanded.state, left]
      exact .of_eq posted
    · refine Finished.exitsBy_of_code (commanded.code.trans (congrArg Ending.exitCode result)) ?_
      -- the verdict looks at each report, by the policy of the configuration
      rw [Summary.allSucceeded_iff, List.forall_mem_map]
      exact forall₂_congr fun report _ => Config.countsAsSuccess_iff
  · obtain ⟨result, left, -⟩ := crashed text isCrash
    exact ⟨commanded.code.trans (congrArg Ending.exitCode result), commanded.state.trans left⟩

end Ends

end Finished

namespace Surroundings

variable {τ : Type} {around : Surroundings} {arguments : Arguments}

/-- **The exit code and the requests of the program.** Let a command line be read, over any network that notes what
it is sent. Without a valid configuration, the base URL of the command line included, the code is 1, and nothing is
sent; and so it is without a client. Where a log file cannot be made in a directory that is there, the program breaks
off with the code 101 before it sends anything. Otherwise:

* unless it is skipped, and always for the health command, the first request is the health check; a service that is
  not well is sent nothing else, and the code is 1;
* the health command sends nothing else, and the code is 0 if the service is well, and else 1;
* the command for scenarios runs the standard ones with one of the fragments in their name, or all of them without
  fragments, in their order; the code is 0 if all of them pass, and else 1;
* the command for a load test runs that of the command line, or of the configuration where the command line says
  nothing; the code is 0 if all invocations succeed, a cancelled one as the configuration says, and else 1. Where the
  numbers of invocations and of workers are out of all proportion there is no channel, and the program breaks off
  behind the health check with the code 101. -/
theorem run_exits_as_asked (wellFormed : Arguments.parse around.arguments = .ok arguments)
    (openLog : String → LogOpening) (network : Network τ) (state : τ) (runId : String) :
    let finished := around.run openLog network.noting (state, []) runId
    let sent := finished.state.2
    ((∀ config, ¬ arguments.Configured around config) → finished.code = 1 ∧ sent = []) ∧
    ∀ config, arguments.Configured around config →
      (config.logging.LacksFile openLog → finished.code = 101 ∧ sent = []) ∧
      (¬ config.logging.LacksFile openLog →
        (∀ client, Client.make (ClientSettings.ofApi config.api) ≠ .ok client) → finished.code = 1 ∧ sent = []) ∧
      (¬ config.logging.LacksFile openLog →
        ∀ client, Client.make (ClientSettings.ofApi config.api) = .ok client →
        let service := client.service network.noting
        let check := (client.requestOf? .health).toList
        let begun := arguments.begun service (state, [])
        (arguments.asksHealth = true →
          (sent = [] ∨ ∃ request, client.requestOf? .health = some request ∧ sent.head? = some request) ∧
          (¬ client.FindsWell network state → finished.code = 1 ∧ sent = check)) ∧
        (arguments.command = .health → finished.ExitsBy (client.FindsWell network state) ∧ sent = check) ∧
        ((arguments.asksHealth = true → client.FindsWell network state) →
          (∀ only, arguments.command = .scenarios only →
            let chosen := Scenario.standard.filter fun scenario =>
              only = [] ∨ ∃ fragment ∈ only, fragment.toList <:+: scenario.name.toList
            finished.OfScenarios chosen ((Scenario.runAll config chosen).run service 0 begun)) ∧
          ∀ options, arguments.command = .load options →
            ∃ endpoint, Endpoint.parse config.load.endpoint = .ok endpoint ∧
              let plan := options.planOver config endpoint
              let launched := Pool.launch plan.workers 0 begun plan.count fun index =>
                (plan.job (options.payloads config plan) index).shared service
              (plan.count < 2 ^ 61 ∨ plan.workers < 2 ^ 60 → ∃ pool, launched = .returned pool ∧
                finished.OfLoad client config plan (options.url.getD config.load.targetUrl) pool) ∧
              (¬ (plan.count < 2 ^ 61 ∨ plan.workers < 2 ^ 60) →
                finished.code = 101 ∧ sent = if arguments.asksHealth then check else []))) := by
  intro finished sent
  refine ⟨fun unconfigured => ?_, fun config configured => ⟨fun lacks => ?_, fun logs unmade => ?_,
    fun logs client made => ?_⟩⟩
  · obtain ⟨code, left⟩ := run_of_unconfigured wellFormed openLog network.noting (state, []) runId unconfigured
    exact ⟨code, congrArg Prod.snd left⟩
  · obtain ⟨code, left⟩ := run_of_lacksFile wellFormed openLog network.noting (state, []) runId configured lacks
    exact ⟨code, congrArg Prod.snd left⟩
  · obtain ⟨code, left⟩ :=
      run_of_no_client wellFormed openLog network.noting (state, []) runId configured logs unmade
    exact ⟨code, congrArg Prod.snd left⟩
  -- all that is used of the client and its network; what they are is forgotten then
  have ends : finished.Ends
      ((arguments.session config client runId).run (client.service network.noting) 0 (state, [])) :=
    run_of_client wellFormed openLog network.noting (state, []) runId configured logs made
  have wellIff : ((client.service network.noting).health (state, [])).1 = true ↔ client.FindsWell network state :=
    Client.fst_health_noting_iff
  have checked := client.sent_health network (state, [])
  have checkOnly := client.posts_health network (state, [])
  have moves := client.moves_noting network
  have tallies := client.tallies_noting network
  rw [List.nil_append] at checked
  generalize client.service network.noting = noted at *
  intro service check begun
  -- what a command finds sent is the check, if there was one
  have before : begun.2 = if arguments.asksHealth then check else [] := by
    show (arguments.begun noted (state, [])).2 = _
    cases asks : arguments.asksHealth with
    | false => rw [Arguments.begun_of_skips noted (state, []) asks]; rfl
    | true => rw [Arguments.begun_of_asks noted (state, []) asks]; exact checked
  have fresh : Request.posts begun.2 = [] := by
    rw [before]
    split
    · rw [← show _ = check from checked]
      exact checkOnly
    · rfl
  have unwell (asks : arguments.asksHealth = true) (ill : ¬ client.FindsWell network state) :
      finished.code = 1 ∧ sent = check := by
    have failed := Bool.eq_false_iff.2 (wellIff.not.2 ill)
    obtain ⟨code, left⟩ := ends.of_unwell asks failed
    exact ⟨code, (congrArg Prod.snd left).trans checked⟩
  refine ⟨fun asks => ⟨?_, unwell asks⟩, fun isHealth => ?_, fun well => ⟨fun only isScenarios => ?_,
    fun options isLoad => ?_⟩⟩
  · cases isRequest : client.requestOf? .health with
    | none =>
      -- no check went out, so that the service is not well
      have ill : ¬ client.FindsWell network state := by
        intro well
        obtain ⟨request, found⟩ := well.exists_request
        rw [isRequest] at found
        cases found
      exact .inl ((unwell asks ill).2.trans (congrArg Option.toList isRequest))
    | some request =>
      -- what follows the check stands behind it
      obtain ⟨later, behind⟩ := ends.onward moves asks
      rw [checked, isRequest] at behind
      exact .inr ⟨request, rfl, congrArg List.head? behind.symm⟩
  · obtain ⟨code, left⟩ := ends.of_health isHealth
    exact ⟨Finished.exitsBy_of_code code wellIff, (congrArg Prod.snd left).trans checked⟩
  · exact ends.of_scenarios (fun asks => wellIff.2 (well asks)) isScenarios
  · obtain ⟨endpoint, isEndpoint, returned, crashed⟩ :=
      Finished.Ends.of_load ends (fun asks => wellIff.2 (well asks)) tallies fresh configured.valid isLoad
    refine ⟨endpoint, isEndpoint, fun proportionate => ?_, fun excessive => ?_⟩
    · have channel := Pool.hasChannel_iff.2 proportionate
      exact ⟨_, Pool.launch_of_hasChannel channel, returned _ (Pool.launch_of_hasChannel channel)⟩
    · obtain ⟨code, left⟩ := crashed _ (Pool.launch_of_not_hasChannel (mt Pool.hasChannel_iff.1 excessive))
      exact ⟨code, (congrArg Prod.snd left).trans before⟩

/-- A command line without files around it. -/
def bare (arguments : List String) (environment : Config.Environment := []) : Surroundings :=
  { arguments, environment, files := .ofTexts fun _ => none }

/-- The program with such a command line, over a network that gives one answer. No directory lets a file be made in
it. -/
def runBare (around : Surroundings) (status : Nat) : Finished (Unit × List Request) :=
  around.run (fun _ => .noFile) (Client.answering { status, body := [] }).noting ((), []) "run"

/-- The built-in configuration asks for no log file. -/
theorem noLog : ¬ LoggingSettings.LacksFile {} fun _ => .noFile := by
  rintro ⟨directory, ⟨⟩, -⟩

/-- The configuration without files and variables is the built-in one. -/
theorem configured_bare {arguments : Arguments} (fromFiles : arguments.config = none)
    (asConfigured : arguments.baseUrl = none) (line : List String) : arguments.Configured (bare line) {} := by
  have loads : Loader.standard.load [] (.ofTexts fun _ => none) = .ok {} := Config.eq_ok_of_toOption (by decide +kernel)
  refine ⟨⟨{}, ?_, ?_⟩, Loader.validate_of_load loads⟩
  · rw [Arguments.loader, fromFiles]
    exact loads
  · rw [Arguments.addressed, asConfigured]
    rfl

/-- A service that is well and one that is not, and a base URL that is blank. -/
theorem run_exits_as_asked_bare :
    let url : Url := { Client.builtIn.baseUrl with path := .segments ["health".toList] }
    let check := Client.request .get url none none
    ((runBare (bare ["health"]) 200).code = 0 ∧ (runBare (bare ["health"]) 200).state.2 = [check]) ∧
    ((runBare (bare ["load", "--count", "2"]) 503).code = 1 ∧
      (runBare (bare ["load", "--count", "2"]) 503).state.2 = [check]) ∧
    (runBare (bare ["--base-url", " ", "scenarios"]) 200).code = 1 ∧
      (runBare (bare ["--base-url", " ", "scenarios"]) 200).state.2 = [] := by
  intro url check
  have isUrl : Client.builtIn.urlFor Inquiry.health.path = .ok url := Client.urlFor_eq_ok (by decide +kernel)
  have isRequest : Client.builtIn.requestOf? .health = some check :=
    Client.requestOf?_of_free isUrl (by decide +kernel)
  have answered (status : Nat) :
      Client.builtIn.FindsWell (Client.answering { status, body := [] }) () ↔ status = 200 := by
    rw [Client.FindsWell, Client.answer?, isRequest]
    simp [Client.answering]
  refine ⟨?_, ?_, ?_⟩
  · -- the service is well, and it is asked once
    have parsed : Arguments.parse ["health"] = .ok { command := .health } :=
      Config.eq_ok_of_toOption (by decide +kernel)
    obtain ⟨-, run⟩ := @run_exits_as_asked Unit (bare ["health"]) _ parsed (fun _ => .noFile)
      (Client.answering { status := 200, body := [] }) () "run"
    obtain ⟨-, -, run⟩ := run {} (configured_bare rfl rfl _)
    obtain ⟨-, told, -⟩ := run noLog Client.builtIn Client.make_builtIn
    obtain ⟨code, sent⟩ := told rfl
    rw [isRequest] at sent
    rw [runBare]
    exact ⟨code.success ((answered 200).2 rfl), sent⟩
  · -- the service is not well, so nothing is submitted
    have parsed : Arguments.parse ["load", "--count", "2"] = .ok { command := .load { count := some 2 } } :=
      Config.eq_ok_of_toOption (by decide +kernel)
    obtain ⟨-, run⟩ := @run_exits_as_asked Unit (bare ["load", "--count", "2"]) _ parsed (fun _ => .noFile)
      (Client.answering { status := 503, body := [] }) () "run"
    obtain ⟨-, -, run⟩ := run {} (configured_bare rfl rfl _)
    obtain ⟨checks, -, -⟩ := run noLog Client.builtIn Client.make_builtIn
    obtain ⟨code, sent⟩ := (checks rfl).2 fun well => absurd ((answered 503).1 well) (by decide)
    rw [isRequest] at sent
    rw [runBare]
    exact ⟨code, sent⟩
  · have parsed : Arguments.parse ["--base-url", " ", "scenarios"] =
        .ok { baseUrl := some " ", command := .scenarios [] } := Config.eq_ok_of_toOption (by decide +kernel)
    obtain ⟨unconfigured, -⟩ := @run_exits_as_asked Unit (bare ["--base-url", " ", "scenarios"]) _ parsed
      (fun _ => .noFile) (Client.answering { status := 200, body := [] }) () "run"
    rw [runBare]
    refine unconfigured fun config configured => ?_
    -- whatever is loaded, the blank base URL takes the place of its own
    obtain ⟨loaded, -, rfl⟩ := configured.loads
    have notBlank : (Text.trim " ".toList).isEmpty = false := (Config.validate_eq_ok_iff.1 configured.valid).1
    exact absurd notBlank (by decide)

/-- Before a log file that cannot be made, and before a load test out of all proportion, the program breaks off. Neither
code is that of success or failure, although the service would have answered. -/
theorem run_exits_otherwise :
    let logging := bare ["health"] [("TASKPROBE__LOGGING__LOG_DIR", "/proc")]
    let loading := bare ["--skip-health", "load", "-n", "2305843009213693952", "-w", "1152921504606846976"]
    ((runBare logging 200).code = 101 ∧ (runBare logging 200).state.2 = []) ∧
      (runBare loading 200).code = 101 ∧ (runBare loading 200).state.2 = [] := by
  intro logging loading
  constructor
  · -- the directory is there, but no file can be made in it
    let config : Config := { logging := { logDir := some "/proc" } }
    have parsed : Arguments.parse ["health"] = .ok { command := .health } :=
      Config.eq_ok_of_toOption (by decide +kernel)
    have loads : Loader.standard.load logging.environment logging.files = .ok config :=
      Config.eq_ok_of_toOption (by decide +kernel)
    have configured : Arguments.Configured { command := .health } logging config :=
      ⟨⟨config, loads, rfl⟩, Loader.validate_of_load loads⟩
    rw [runBare]
    obtain ⟨code, left⟩ := run_of_lacksFile parsed (fun _ => .noFile)
      (Client.answering { status := 200, body := [] }).noting ((), []) "run" configured ⟨"/proc", rfl, rfl⟩
    exact ⟨code, congrArg Prod.snd left⟩
  · -- no channel can be made for so many reports
    let options : LoadOptions := { count := some 2305843009213693952, workers := some 1152921504606846976 }
    let arguments : Arguments := { skipHealth := true, command := .load options }
    have parsed : Arguments.parse loading.arguments = .ok arguments := Config.eq_ok_of_toOption (by decide +kernel)
    have configured : arguments.Configured loading {} := configured_bare rfl rfl _
    have ends := run_of_client parsed (fun _ => .noFile) (Client.answering { status := 200, body := [] }).noting
      ((), []) "run" configured noLog Client.make_builtIn
    obtain ⟨endpoint, -, -, crashed⟩ := Finished.Ends.of_load ends (fun asks => absurd asks (by decide))
      (Client.tallies_noting _ _) rfl configured.valid rfl
    have excessive : ¬ Pool.HasChannel (options.planOver {} endpoint).workers (options.planOver {} endpoint).count := by
      rw [Pool.hasChannel_iff]
      change ¬ (2305843009213693952 < 2 ^ 61 ∨ 1152921504606846976 < 2 ^ 60)
      decide
    obtain ⟨code, left⟩ := crashed _ (Pool.launch_of_not_hasChannel excessive)
    rw [runBare]
    exact ⟨code, congrArg Prod.snd left⟩

end Surroundings

end ServiceProbe
