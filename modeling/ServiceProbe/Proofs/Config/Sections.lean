import ServiceProbe.Proofs.Config.Layers
import ServiceProbe.Proofs.Url.Rereading

/-!
# From the tree of settings to a configuration

A configuration that was decoded from a tree of settings holds, for each setting that the tree has, what the
setting is read as.

* `TextSetting.held?_of_there` — the settings that are texts (`TextSetting`);
* `WholeSetting.held?_of_there` — those that are whole numbers (`WholeSetting`).

Each of the two kinds is one list of settings with their sections and names, so that a statement about all
settings of a kind is one statement.
-/

namespace ServiceProbe.Config

open Url (exists_of_bind_eq_ok)

variable {tree setting : Setting} {config : Config}

theorem exists_of_map_eq_ok {ε α β : Type} {x : Except ε α} {f : α → β} {result : β}
    (h : x.map f = .ok result) : ∃ value, x = .ok value ∧ result = f value := by
  cases x with
  | error e => exact nomatch (show Except.error e = Except.ok result from h)
  | ok value => exact ⟨value, rfl, (Except.ok.inj h).symm⟩

theorem eq_ok_of_toOption {ε α : Type} {result : Except ε α} {value : α} (h : result.toOption = some value) :
    result = .ok value := by
  cases result with
  | error fault => cases h
  | ok other => exact congrArg Except.ok (Option.some.inj h)

/-! ### Sections -/

namespace Section

variable {α : Type} {part : Section} {name : String} {place : Nat} {decode : Keyed → Except SettingFault α}

/-- The key of a setting, as messages name it. -/
def keyOf (part : Section) (name : String) : String :=
  s!"{part.name}.{name}"

/-- A setting that is in the tree is found in its section, which is a table then. -/
theorem exists_of_there (isName : part.settings[place]? = some name)
    (there : tree.find? [part.name, name] = some setting) :
    ∃ held, part.of tree = .ok held ∧ part.find? held place = some ⟨part.keyOf name, setting⟩ := by
  obtain ⟨held, inTree, inHeld⟩ := Setting.find?_eq_some_iff.1 there
  -- where a setting is found in a section, the section is a table
  refine ⟨held, ?_, ?_⟩
  · rw [of, inTree]
    cases held with
    | table entries origin => rfl
    | list items origin => rfl
    | leaf value origin => cases inHeld
  · cases held with
    | table entries origin =>
      have found : Entries.find? name entries = some setting := inHeld
      rw [find?, isName, Option.bind_some, Setting.entries, found]
      · rfl
      · nofun
    | list items origin => cases inHeld
    | leaf value origin => cases inHeld

/-- What a setting of the tree is decoded as, if it has to be there. -/
theorem required?_of_there {held : Setting} (isName : part.settings[place]? = some name)
    (there : tree.find? [part.name, name] = some setting) (isHeld : part.of tree = .ok held) :
    part.required? held place decode = decode ⟨part.keyOf name, setting⟩ := by
  obtain ⟨other, isOther, found⟩ := exists_of_there isName there
  obtain rfl : held = other := Except.ok.inj (isHeld.symm.trans isOther)
  rw [required?, found]

/-- What a setting of the tree is decoded as, if it may be missing. -/
theorem optional_of_there {held : Setting} {scalar : Scalar} {origin : Origin}
    (isName : part.settings[place]? = some name)
    (there : tree.find? [part.name, name] = some (.leaf scalar origin)) (something : scalar ≠ .nothing)
    (isHeld : part.of tree = .ok held) :
    part.optional held place decode = (decode ⟨part.keyOf name, .leaf scalar origin⟩).map some := by
  obtain ⟨other, isOther, found⟩ := exists_of_there isName there
  obtain rfl : held = other := Except.ok.inj (isHeld.symm.trans isOther)
  rw [optional, found]
  cases scalar with
  | nothing => exact absurd rfl something
  | truth | whole | real | text => rfl

end Section

/-! ### The parts of a configuration -/

theorem of_ofSettings (h : ofSettings tree = .ok config) :
    readApi tree = .ok config.api ∧ readPolling tree = .ok config.polling ∧
      readLoad tree = .ok config.load ∧ readLogging tree = .ok config.logging := by
  obtain ⟨api, isApi, h⟩ := exists_of_bind_eq_ok h
  obtain ⟨polling, isPolling, h⟩ := exists_of_bind_eq_ok h
  obtain ⟨load, isLoad, h⟩ := exists_of_bind_eq_ok h
  obtain ⟨logging, isLogging, h⟩ := exists_of_bind_eq_ok h
  cases h
  exact ⟨isApi, isPolling, isLoad, isLogging⟩

theorem of_readApi {api : ApiSettings} (h : readApi tree = .ok api) :
    ∃ held, apiSection.of tree = .ok held ∧
      apiSection.required? held 0 Keyed.asText = .ok api.baseUrl ∧
      apiSection.required? held 1 Keyed.asText = .ok api.apiKey ∧
      apiSection.required? held 2 Keyed.asWhole = .ok api.requestTimeoutMillis := by
  obtain ⟨held, isHeld, h⟩ := exists_of_bind_eq_ok h
  obtain ⟨baseUrl, isBaseUrl, h⟩ := exists_of_bind_eq_ok h
  obtain ⟨apiKey, isApiKey, h⟩ := exists_of_bind_eq_ok h
  obtain ⟨timeout, isTimeout, h⟩ := exists_of_bind_eq_ok h
  cases h
  exact ⟨held, isHeld, isBaseUrl, isApiKey, isTimeout⟩

theorem of_readPolling {polling : PollingSettings} (h : readPolling tree = .ok polling) :
    ∃ held, pollingSection.of tree = .ok held ∧
      pollingSection.required? held 0 Keyed.asWhole = .ok polling.intervalMillis ∧
      pollingSection.required? held 1 Keyed.asSmallWhole = .ok polling.maxAttempts ∧
      pollingSection.optional held 2 Keyed.asWhole = .ok polling.maxWaitMillis := by
  obtain ⟨held, isHeld, h⟩ := exists_of_bind_eq_ok h
  obtain ⟨interval, isInterval, h⟩ := exists_of_bind_eq_ok h
  obtain ⟨attempts, isAttempts, h⟩ := exists_of_bind_eq_ok h
  obtain ⟨wait, isWait, h⟩ := exists_of_bind_eq_ok h
  cases h
  exact ⟨held, isHeld, isInterval, isAttempts, isWait⟩

theorem of_readLoad {load : LoadSettings} (h : readLoad tree = .ok load) :
    ∃ held, loadSection.of tree = .ok held ∧
      loadSection.required? held 0 Keyed.asText = .ok load.endpoint ∧
      loadSection.required? held 1 Keyed.asText = .ok load.targetUrl ∧
      loadSection.required? held 2 Keyed.asWhole = .ok load.concurrency ∧
      loadSection.required? held 3 Keyed.asWhole = .ok load.workerBudget := by
  obtain ⟨held, isHeld, h⟩ := exists_of_bind_eq_ok h
  obtain ⟨endpoint, isEndpoint, h⟩ := exists_of_bind_eq_ok h
  obtain ⟨targetUrl, isTargetUrl, h⟩ := exists_of_bind_eq_ok h
  obtain ⟨concurrency, isConcurrency, h⟩ := exists_of_bind_eq_ok h
  obtain ⟨workerBudget, isWorkerBudget, h⟩ := exists_of_bind_eq_ok h
  obtain ⟨cancelled, -, h⟩ := exists_of_bind_eq_ok h
  obtain ⟨successesOnly, -, h⟩ := exists_of_bind_eq_ok h
  cases h
  exact ⟨held, isHeld, isEndpoint, isTargetUrl, isConcurrency, isWorkerBudget⟩

theorem of_readLogging {logging : LoggingSettings} (h : readLogging tree = .ok logging) :
    ∃ held, loggingSection.of tree = .ok held ∧
      loggingSection.required? held 0 Keyed.asText = .ok logging.level ∧
      loggingSection.optional held 1 Keyed.asText = .ok logging.logDir := by
  obtain ⟨held, isHeld, h⟩ := exists_of_bind_eq_ok h
  obtain ⟨level, isLevel, h⟩ := exists_of_bind_eq_ok h
  obtain ⟨logDir, isLogDir, h⟩ := exists_of_bind_eq_ok h
  cases h
  exact ⟨held, isHeld, isLevel, isLogDir⟩

/-! ### Texts -/

/-- The settings that are texts. -/
inductive TextSetting where
  | baseUrl | apiKey | endpoint | targetUrl | level | logDir
deriving DecidableEq

namespace TextSetting

def part : TextSetting → Section
  | baseUrl | apiKey => apiSection
  | endpoint | targetUrl => loadSection
  | level | logDir => loggingSection

/-- The name in the section. -/
def name : TextSetting → String
  | baseUrl => "base_url"
  | apiKey => "api_key"
  | endpoint => "endpoint"
  | targetUrl => "target_url"
  | level => "level"
  | logDir => "log_dir"

/-- What a configuration holds for the setting. Only the directory for logs may be missing. -/
def held? (config : Config) : TextSetting → Option String
  | baseUrl => some config.api.baseUrl
  | apiKey => some config.api.apiKey
  | endpoint => some config.load.endpoint
  | targetUrl => some config.load.targetUrl
  | level => some config.logging.level
  | logDir => config.logging.logDir

/-- A text of the tree is held as it is read. -/
theorem held?_of_there {text : TextSetting} {scalar : Scalar} {origin : Origin}
    (h : ofSettings tree = .ok config)
    (there : tree.find? [text.part.name, text.name] = some (.leaf scalar origin))
    (something : scalar ≠ .nothing) :
    (Keyed.asText ⟨text.part.keyOf text.name, .leaf scalar origin⟩).map some = .ok (text.held? config) := by
  obtain ⟨api, -, load, logging⟩ := of_ofSettings h
  cases text with
  | baseUrl =>
    change tree.find? [apiSection.name, "base_url"] = _ at there
    obtain ⟨held, isHeld, isBaseUrl, -⟩ := of_readApi api
    rw [Section.required?_of_there rfl there isHeld] at isBaseUrl
    exact congrArg (Except.map some) isBaseUrl
  | apiKey =>
    change tree.find? [apiSection.name, "api_key"] = _ at there
    obtain ⟨held, isHeld, -, isApiKey, -⟩ := of_readApi api
    rw [Section.required?_of_there rfl there isHeld] at isApiKey
    exact congrArg (Except.map some) isApiKey
  | endpoint =>
    change tree.find? [loadSection.name, "endpoint"] = _ at there
    obtain ⟨held, isHeld, isEndpoint, -⟩ := of_readLoad load
    rw [Section.required?_of_there rfl there isHeld] at isEndpoint
    exact congrArg (Except.map some) isEndpoint
  | targetUrl =>
    change tree.find? [loadSection.name, "target_url"] = _ at there
    obtain ⟨held, isHeld, -, isTargetUrl, -⟩ := of_readLoad load
    rw [Section.required?_of_there rfl there isHeld] at isTargetUrl
    exact congrArg (Except.map some) isTargetUrl
  | level =>
    change tree.find? [loggingSection.name, "level"] = _ at there
    obtain ⟨held, isHeld, isLevel, -⟩ := of_readLogging logging
    rw [Section.required?_of_there rfl there isHeld] at isLevel
    exact congrArg (Except.map some) isLevel
  | logDir =>
    change tree.find? [loggingSection.name, "log_dir"] = _ at there
    obtain ⟨held, isHeld, -, isLogDir⟩ := of_readLogging logging
    rwa [Section.optional_of_there rfl there something isHeld] at isLogDir

end TextSetting

/-! ### Whole numbers -/

/-- The settings that are whole numbers. -/
inductive WholeSetting where
  | requestTimeout | interval | maxAttempts | maxWait | concurrency | workerBudget
deriving DecidableEq

namespace WholeSetting

def part : WholeSetting → Section
  | requestTimeout => apiSection
  | interval | maxAttempts | maxWait => pollingSection
  | concurrency | workerBudget => loadSection

/-- The name in the section. -/
def name : WholeSetting → String
  | requestTimeout => "request_timeout_ms"
  | interval => "interval_ms"
  | maxAttempts => "max_attempts"
  | maxWait => "max_wait_ms"
  | concurrency => "concurrency"
  | workerBudget => "worker_budget"

/-- What a configuration holds for the setting. Only the longest wait may be missing. -/
def held? (config : Config) : WholeSetting → Option Nat
  | requestTimeout => some config.api.requestTimeoutMillis.toNat
  | interval => some config.polling.intervalMillis.toNat
  | maxAttempts => some config.polling.maxAttempts.toNat
  | maxWait => config.polling.maxWaitMillis.map UInt64.toNat
  | concurrency => some config.load.concurrency.toNat
  | workerBudget => some config.load.workerBudget.toNat

/-- A number of 32 bits is read as one of 64 first. -/
theorem of_asSmallWhole {keyed : Keyed} {n : UInt32} (h : keyed.asSmallWhole = .ok n) :
    ∃ word, keyed.asWhole = .ok word ∧ n.toNat = word.toNat := by
  obtain ⟨word, isWord, h⟩ := exists_of_bind_eq_ok h
  refine ⟨word, isWord, ?_⟩
  by_cases small : word.toNat < UInt32.size
  · rw [if_pos small] at h
    obtain rfl := Except.ok.inj h
    exact UInt32.toNat_ofNat_of_lt' small
  · rw [if_neg small] at h
    cases h

/-- A number of the tree is held as it is read, or nothing is loaded. -/
theorem held?_of_there {number : WholeSetting} {scalar : Scalar} {origin : Origin}
    (h : ofSettings tree = .ok config)
    (there : tree.find? [number.part.name, number.name] = some (.leaf scalar origin))
    (something : scalar ≠ .nothing) :
    ∃ word, Keyed.asWhole ⟨number.part.keyOf number.name, .leaf scalar origin⟩ = .ok word ∧
      number.held? config = some word.toNat := by
  obtain ⟨api, polling, load, -⟩ := of_ofSettings h
  cases number with
  | requestTimeout =>
    change tree.find? [apiSection.name, "request_timeout_ms"] = _ at there
    obtain ⟨held, isHeld, -, -, isTimeout⟩ := of_readApi api
    rw [Section.required?_of_there rfl there isHeld] at isTimeout
    exact ⟨_, isTimeout, rfl⟩
  | interval =>
    change tree.find? [pollingSection.name, "interval_ms"] = _ at there
    obtain ⟨held, isHeld, isInterval, -⟩ := of_readPolling polling
    rw [Section.required?_of_there rfl there isHeld] at isInterval
    exact ⟨_, isInterval, rfl⟩
  | maxAttempts =>
    change tree.find? [pollingSection.name, "max_attempts"] = _ at there
    obtain ⟨held, isHeld, -, isMaxAttempts, -⟩ := of_readPolling polling
    rw [Section.required?_of_there rfl there isHeld] at isMaxAttempts
    obtain ⟨word, isWord, same⟩ := of_asSmallWhole isMaxAttempts
    exact ⟨word, isWord, congrArg some same⟩
  | maxWait =>
    change tree.find? [pollingSection.name, "max_wait_ms"] = _ at there
    obtain ⟨held, isHeld, -, -, isMaxWait⟩ := of_readPolling polling
    rw [Section.optional_of_there rfl there something isHeld] at isMaxWait
    obtain ⟨word, isWord, same⟩ := exists_of_map_eq_ok isMaxWait
    exact ⟨word, isWord, congrArg (Option.map UInt64.toNat) same⟩
  | concurrency =>
    change tree.find? [loadSection.name, "concurrency"] = _ at there
    obtain ⟨held, isHeld, -, -, isConcurrency, -⟩ := of_readLoad load
    rw [Section.required?_of_there rfl there isHeld] at isConcurrency
    exact ⟨_, isConcurrency, rfl⟩
  | workerBudget =>
    change tree.find? [loadSection.name, "worker_budget"] = _ at there
    obtain ⟨held, isHeld, -, -, -, isWorkerBudget⟩ := of_readLoad load
    rw [Section.required?_of_there rfl there isHeld] at isWorkerBudget
    exact ⟨_, isWorkerBudget, rfl⟩

end WholeSetting

end ServiceProbe.Config
