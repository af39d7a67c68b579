import ServiceProbe.Proofs.Config.Merging
import ServiceProbe.Proofs.Config.Sections

/-!
# The documented settings

A configuration has fourteen settings, in four sections: texts, whole numbers and truth values. It is decoded from
a tree of settings one setting at a time.

* `Documented.read?` — what one setting is read as;
* `ofSettings_eq_ok_iff` — a tree with all sections is decoded as a configuration exactly if each of its settings is
  read as the configuration holds it;
* `Documented.read?_congr` — for which it does not matter which table stands where a single value belongs.
-/

namespace ServiceProbe.Config

open Url (exists_of_bind_eq_ok)

variable {tree setting : Setting} {config : Config}

/-! ### Reading sections -/

theorem map_toOption_eq_some_iff {ε α β : Type} {x : Except ε α} {f : α → β} (injective : Function.Injective f)
    {value : α} : x.toOption.map f = some (f value) ↔ x = .ok value := by
  cases x with
  | error fault => exact iff_of_false nofun nofun
  | ok other =>
    constructor
    · intro same
      exact congrArg Except.ok (injective (Option.some.inj same))
    · intro same
      exact congrArg (some ∘ f) (Except.ok.inj same)

namespace Section

variable {α : Type} {part : Section} {name : String} {place : Nat} {decode : Keyed → Except SettingFault α}

/-- What a setting is read as that has to be there. -/
def readRequired? (part : Section) (name : String) (decode : Keyed → Except SettingFault α)
    (found : Option Setting) : Option α :=
  found.bind fun setting => (decode ⟨part.keyOf name, setting⟩).toOption

/-- What a setting is read as that may be missing, or be nothing. -/
def readOptional? (part : Section) (name : String) (decode : Keyed → Except SettingFault α)
    (found : Option Setting) : Option (Option α) :=
  match found with
  | none | some (.leaf .nothing _) => some none
  | some setting => (decode ⟨part.keyOf name, setting⟩).toOption.map some

/-- A section that is a table is found, with its settings under their names. -/
theorem exists_of_hasSection (has : Setting.HasSection part.name tree) :
    ∃ held, part.of tree = .ok held ∧
      ∀ {place : Nat} {name : String}, part.settings[place]? = some name →
        part.find? held place = (tree.find? [part.name, name]).map (⟨part.keyOf name, ·⟩) := by
  obtain ⟨_, found, entries, origin, rfl⟩ := has
  refine ⟨_, by rw [of, found], fun isName => ?_⟩
  rw [find?, isName, Option.bind_some, Setting.find?, found]
  · simp only [Setting.find?, Option.bind_eq_bind, Option.bind_some, Option.bind_fun_some, Setting.entries]
    rfl
  · intro items _ same
    cases same

/-- A setting that has to be there is decoded as it is read, wrapped up or not. -/
theorem required?_eq_ok_iff {held : Setting} {β : Type} {wrap : α → β} (injective : Function.Injective wrap)
    (found : part.find? held place = (tree.find? [part.name, name]).map (⟨part.keyOf name, ·⟩)) {value : α} :
    (part.readRequired? name decode (tree.find? [part.name, name])).map wrap = some (wrap value) ↔
      part.required? held place decode = .ok value := by
  rw [← map_toOption_eq_some_iff injective, required?, found, readRequired?]
  cases tree.find? [part.name, name] <;> rfl

/-- So is a setting that may be missing. -/
theorem optional_eq_ok_iff {held : Setting} {β : Type} {wrap : Option α → β} (injective : Function.Injective wrap)
    (found : part.find? held place = (tree.find? [part.name, name]).map (⟨part.keyOf name, ·⟩)) {value : Option α} :
    (part.readOptional? name decode (tree.find? [part.name, name])).map wrap = some (wrap value) ↔
      part.optional held place decode = .ok value := by
  have each : ∀ keyed, ((decode keyed).map some).toOption = (decode keyed).toOption.map some := by
    intro keyed
    cases decode keyed <;> rfl
  rw [← map_toOption_eq_some_iff injective, optional, found]
  -- a value that is absent or empty is taken for none
  cases tree.find? [part.name, name] with
  | none => rfl
  | some setting =>
    cases setting with
    | list items origin | table entries origin => exact iff_of_eq (congrArg (·.map wrap = _) (each _).symm)
    | leaf scalar origin =>
      cases scalar with
      | nothing => rfl
      | truth b | whole n | real x | text s => exact iff_of_eq (congrArg (·.map wrap = _) (each _).symm)

end Section

/-! ### The settings -/

/-- The settings that are truth values. -/
inductive TruthSetting where
  | cancelledCountsAsSuccess | successesOnlyLatency
deriving DecidableEq

/-- A setting of a configuration. -/
inductive Documented where
  | text (setting : TextSetting)
  | whole (setting : WholeSetting)
  | truth (setting : TruthSetting)
deriving DecidableEq

/-- A value of a setting. -/
inductive Value where
  | text (s : String)
  | whole (n : Nat)
  | truth (b : Bool)
deriving DecidableEq

namespace Documented

def part : Documented → Section
  | text setting => setting.part
  | whole setting => setting.part
  | truth _ => loadSection

/-- The name in the section. -/
def name : Documented → String
  | text setting => setting.name
  | whole setting => setting.name
  | truth .cancelledCountsAsSuccess => "cancelled_counts_as_success"
  | truth .successesOnlyLatency => "successes_only_latency"

/-- What a configuration holds for the setting. -/
def held? (config : Config) : Documented → Option Value
  | text setting => (setting.held? config).map .text
  | whole setting => (setting.held? config).map .whole
  | truth .cancelledCountsAsSuccess => some (.truth config.load.cancelledCountsAsSuccess)
  | truth .successesOnlyLatency => some (.truth config.load.successesOnlyLatency)

/-- What the setting is read as, if that is possible. The directory for logs and the longest wait may be missing. -/
def read? (setting : Documented) (found : Option Setting) : Option (Option Value) :=
  match setting with
  | text .logDir => (setting.part.readOptional? setting.name Keyed.asText found).map (·.map .text)
  | text _ => (setting.part.readRequired? setting.name Keyed.asText found).map (some ∘ .text)
  | whole .maxWait =>
    (setting.part.readOptional? setting.name Keyed.asWhole found).map fun word => (word.map UInt64.toNat).map .whole
  | whole .maxAttempts =>
    (setting.part.readRequired? setting.name Keyed.asSmallWhole found).map fun word => some (.whole word.toNat)
  | whole _ => (setting.part.readRequired? setting.name Keyed.asWhole found).map fun word => some (.whole word.toNat)
  | truth _ => (setting.part.readRequired? setting.name Keyed.asTruth found).map (some ∘ .truth)

end Documented

/-! ### Decoding -/

/-- The setting of a tree is read as a configuration holds it. -/
def Documented.IsHeld (config : Config) (tree : Setting) (setting : Documented) : Prop :=
  setting.read? (tree.find? [setting.part.name, setting.name]) = some (setting.held? config)

theorem wholeOf_injective : Function.Injective fun word : UInt64 => some (Value.whole word.toNat) := by
  intro word word' same
  exact UInt64.toNat_inj.1 (Value.whole.inj (Option.some.inj same))

theorem smallWholeOf_injective : Function.Injective fun word : UInt32 => some (Value.whole word.toNat) := by
  intro word word' same
  exact UInt32.toNat_inj.1 (Value.whole.inj (Option.some.inj same))

theorem optionalWholeOf_injective :
    Function.Injective fun word : Option UInt64 => (word.map UInt64.toNat).map Value.whole := by
  intro word word' same
  refine Option.map_injective (fun _ _ => UInt64.toNat_inj.1) (Option.map_injective ?_ same)
  exact fun _ _ => Value.whole.inj

theorem optionalTextOf_injective : Function.Injective (Option.map Value.text) :=
  Option.map_injective fun _ _ => Value.text.inj

theorem textOf_injective : Function.Injective (some ∘ Value.text) := by
  intro s s' same
  exact Value.text.inj (Option.some.inj same)

theorem truthOf_injective : Function.Injective (some ∘ Value.truth) := by
  intro b b' same
  exact Value.truth.inj (Option.some.inj same)

theorem readApi_eq_ok_iff (has : Setting.HasSection apiSection.name tree) :
    readApi tree = .ok config.api ↔
      Documented.IsHeld config tree (.text .baseUrl) ∧ Documented.IsHeld config tree (.text .apiKey) ∧
      Documented.IsHeld config tree (.whole .requestTimeout) := by
  obtain ⟨held, isHeld, found⟩ := Section.exists_of_hasSection has
  -- each setting is held where the reader of its section looks for it, at its own place
  have baseUrl : Documented.IsHeld config tree (.text .baseUrl) ↔
      apiSection.required? held 0 Keyed.asText = .ok config.api.baseUrl :=
    Section.required?_eq_ok_iff textOf_injective (@found 0 _ rfl)
  have apiKey : Documented.IsHeld config tree (.text .apiKey) ↔
      apiSection.required? held 1 Keyed.asText = .ok config.api.apiKey :=
    Section.required?_eq_ok_iff textOf_injective (@found 1 _ rfl)
  have timeout : Documented.IsHeld config tree (.whole .requestTimeout) ↔
      apiSection.required? held 2 Keyed.asWhole = .ok config.api.requestTimeoutMillis :=
    Section.required?_eq_ok_iff wholeOf_injective (@found 2 _ rfl)
  rw [baseUrl, apiKey, timeout]
  constructor
  · intro h
    obtain ⟨other, isOther, isBaseUrl, isApiKey, isTimeout⟩ := of_readApi h
    obtain rfl : held = other := Except.ok.inj (isHeld.symm.trans isOther)
    exact ⟨isBaseUrl, isApiKey, isTimeout⟩
  · rintro ⟨isBaseUrl, isApiKey, isTimeout⟩
    refine bind_eq_ok_iff.2 ⟨held, isHeld, ?_⟩
    refine bind_eq_ok_iff.2 ⟨_, isBaseUrl, ?_⟩
    refine bind_eq_ok_iff.2 ⟨_, isApiKey, ?_⟩
    exact bind_eq_ok_iff.2 ⟨_, isTimeout, rfl⟩

theorem readPolling_eq_ok_iff (has : Setting.HasSection pollingSection.name tree) :
    readPolling tree = .ok config.polling ↔
      Documented.IsHeld config tree (.whole .interval) ∧ Documented.IsHeld config tree (.whole .maxAttempts) ∧
      Documented.IsHeld config tree (.whole .maxWait) := by
  obtain ⟨held, isHeld, found⟩ := Section.exists_of_hasSection has
  have interval : Documented.IsHeld config tree (.whole .interval) ↔
      pollingSection.required? held 0 Keyed.asWhole = .ok config.polling.intervalMillis :=
    Section.required?_eq_ok_iff wholeOf_injective (@found 0 _ rfl)
  have attempts : Documented.IsHeld config tree (.whole .maxAttempts) ↔
      pollingSection.required? held 1 Keyed.asSmallWhole = .ok config.polling.maxAttempts :=
    Section.required?_eq_ok_iff smallWholeOf_injective (@found 1 _ rfl)
  have wait : Documented.IsHeld config tree (.whole .maxWait) ↔
      pollingSection.optional held 2 Keyed.asWhole = .ok config.polling.maxWaitMillis :=
    Section.optional_eq_ok_iff optionalWholeOf_injective (@found 2 _ rfl)
  -- reading the section is reading the three in turn
  rw [interval, attempts, wait]
  constructor
  · intro h
    obtain ⟨other, isOther, isInterval, isAttempts, isWait⟩ := of_readPolling h
    obtain rfl : held = other := Except.ok.inj (isHeld.symm.trans isOther)
    exact ⟨isInterval, isAttempts, isWait⟩
  · rintro ⟨isInterval, isAttempts, isWait⟩
    refine bind_eq_ok_iff.2 ⟨held, isHeld, ?_⟩
    refine bind_eq_ok_iff.2 ⟨_, isInterval, ?_⟩
    refine bind_eq_ok_iff.2 ⟨_, isAttempts, ?_⟩
    exact bind_eq_ok_iff.2 ⟨_, isWait, rfl⟩

theorem readLoad_eq_ok_iff (has : Setting.HasSection loadSection.name tree) :
    readLoad tree = .ok config.load ↔
      Documented.IsHeld config tree (.text .endpoint) ∧ Documented.IsHeld config tree (.text .targetUrl) ∧
      Documented.IsHeld config tree (.whole .concurrency) ∧ Documented.IsHeld config tree (.whole .workerBudget) ∧
      Documented.IsHeld config tree (.truth .cancelledCountsAsSuccess) ∧
      Documented.IsHeld config tree (.truth .successesOnlyLatency) := by
  obtain ⟨held, isHeld, found⟩ := Section.exists_of_hasSection has
  -- each setting is held where the reader of its section looks for it, at its own place
  have endpoint : Documented.IsHeld config tree (.text .endpoint) ↔
      loadSection.required? held 0 Keyed.asText = .ok config.load.endpoint :=
    Section.required?_eq_ok_iff textOf_injective (@found 0 _ rfl)
  have targetUrl : Documented.IsHeld config tree (.text .targetUrl) ↔
      loadSection.required? held 1 Keyed.asText = .ok config.load.targetUrl :=
    Section.required?_eq_ok_iff textOf_injective (@found 1 _ rfl)
  have concurrency : Documented.IsHeld config tree (.whole .concurrency) ↔
      loadSection.required? held 2 Keyed.asWhole = .ok config.load.concurrency :=
    Section.required?_eq_ok_iff wholeOf_injective (@found 2 _ rfl)
  have workerBudget : Documented.IsHeld config tree (.whole .workerBudget) ↔
      loadSection.required? held 3 Keyed.asWhole = .ok config.load.workerBudget :=
    Section.required?_eq_ok_iff wholeOf_injective (@found 3 _ rfl)
  have cancelled : Documented.IsHeld config tree (.truth .cancelledCountsAsSuccess) ↔
      loadSection.required? held 4 Keyed.asTruth = .ok config.load.cancelledCountsAsSuccess :=
    Section.required?_eq_ok_iff truthOf_injective (@found 4 _ rfl)
  have successesOnly : Documented.IsHeld config tree (.truth .successesOnlyLatency) ↔
      loadSection.required? held 5 Keyed.asTruth = .ok config.load.successesOnlyLatency :=
    Section.required?_eq_ok_iff truthOf_injective (@found 5 _ rfl)
  rw [endpoint, targetUrl, concurrency, workerBudget, cancelled, successesOnly]
  constructor
  · intro h
    -- a reader that succeeds has read every part
    obtain ⟨other, isOther, h⟩ := exists_of_bind_eq_ok h
    obtain rfl : held = other := Except.ok.inj (isHeld.symm.trans isOther)
    obtain ⟨_, isEndpoint, h⟩ := exists_of_bind_eq_ok h
    obtain ⟨_, isTargetUrl, h⟩ := exists_of_bind_eq_ok h
    obtain ⟨_, isConcurrency, h⟩ := exists_of_bind_eq_ok h
    obtain ⟨_, isWorkerBudget, h⟩ := exists_of_bind_eq_ok h
    obtain ⟨_, isCancelled, h⟩ := exists_of_bind_eq_ok h
    obtain ⟨_, isSuccessesOnly, h⟩ := exists_of_bind_eq_ok h
    rw [← Except.ok.inj h]
    exact ⟨isEndpoint, isTargetUrl, isConcurrency, isWorkerBudget, isCancelled, isSuccessesOnly⟩
  · rintro ⟨isEndpoint, isTargetUrl, isConcurrency, isWorkerBudget, isCancelled, isSuccessesOnly⟩
    refine bind_eq_ok_iff.2 ⟨held, isHeld, ?_⟩
    refine bind_eq_ok_iff.2 ⟨_, isEndpoint, ?_⟩
    refine bind_eq_ok_iff.2 ⟨_, isTargetUrl, ?_⟩
    refine bind_eq_ok_iff.2 ⟨_, isConcurrency, ?_⟩
    refine bind_eq_ok_iff.2 ⟨_, isWorkerBudget, ?_⟩
    refine bind_eq_ok_iff.2 ⟨_, isCancelled, ?_⟩
    exact bind_eq_ok_iff.2 ⟨_, isSuccessesOnly, rfl⟩

theorem readLogging_eq_ok_iff (has : Setting.HasSection loggingSection.name tree) :
    readLogging tree = .ok config.logging ↔
      Documented.IsHeld config tree (.text .level) ∧ Documented.IsHeld config tree (.text .logDir) := by
  obtain ⟨held, isHeld, found⟩ := Section.exists_of_hasSection has
  have level : Documented.IsHeld config tree (.text .level) ↔
      loggingSection.required? held 0 Keyed.asText = .ok config.logging.level :=
    Section.required?_eq_ok_iff textOf_injective (@found 0 _ rfl)
  have logDir : Documented.IsHeld config tree (.text .logDir) ↔
      loggingSection.optional held 1 Keyed.asText = .ok config.logging.logDir :=
    Section.optional_eq_ok_iff optionalTextOf_injective (@found 1 _ rfl)
  -- reading the section is reading the two in turn
  rw [level, logDir]
  constructor
  · intro h
    obtain ⟨other, isOther, isLevel, isLogDir⟩ := of_readLogging h
    obtain rfl : held = other := Except.ok.inj (isHeld.symm.trans isOther)
    exact ⟨isLevel, isLogDir⟩
  · rintro ⟨isLevel, isLogDir⟩
    refine bind_eq_ok_iff.2 ⟨held, isHeld, ?_⟩
    refine bind_eq_ok_iff.2 ⟨_, isLevel, ?_⟩
    exact bind_eq_ok_iff.2 ⟨_, isLogDir, rfl⟩

/-- **Decoding, setting by setting.** A tree with all sections is decoded as a configuration exactly if each of its
settings is read as the configuration holds it. -/
theorem ofSettings_eq_ok_iff (has : ∀ setting : Documented, Setting.HasSection setting.part.name tree) :
    ofSettings tree = .ok config ↔ ∀ setting, Documented.IsHeld config tree setting := by
  have parts : ofSettings tree = .ok config ↔
      readApi tree = .ok config.api ∧ readPolling tree = .ok config.polling ∧
        readLoad tree = .ok config.load ∧ readLogging tree = .ok config.logging := by
    constructor
    · exact of_ofSettings
    · rintro ⟨api, polling, load, logging⟩
      refine bind_eq_ok_iff.2 ⟨_, api, ?_⟩
      refine bind_eq_ok_iff.2 ⟨_, polling, ?_⟩
      refine bind_eq_ok_iff.2 ⟨_, load, ?_⟩
      exact bind_eq_ok_iff.2 ⟨_, logging, rfl⟩
  -- any setting of a section stands for the section, which is all that is asked of the tree
  rw [parts, readApi_eq_ok_iff (has (.text .baseUrl)), readPolling_eq_ok_iff (has (.whole .interval)),
    readLoad_eq_ok_iff (has (.text .endpoint)), readLogging_eq_ok_iff (has (.text .level))]
  constructor
  · rintro ⟨⟨baseUrl, apiKey, timeout⟩, ⟨interval, attempts, wait⟩,
      ⟨endpoint, targetUrl, concurrency, workerBudget, cancelled, successesOnly⟩, level, logDir⟩ setting
    match setting with
    | .text .baseUrl => exact baseUrl
    | .text .apiKey => exact apiKey
    | .text .endpoint => exact endpoint
    | .text .targetUrl => exact targetUrl
    | .text .level => exact level
    | .text .logDir => exact logDir
    | .whole .requestTimeout => exact timeout
    | .whole .interval => exact interval
    | .whole .maxAttempts => exact attempts
    | .whole .maxWait => exact wait
    | .whole .concurrency => exact concurrency
    | .whole .workerBudget => exact workerBudget
    | .truth .cancelledCountsAsSuccess => exact cancelled
    | .truth .successesOnlyLatency => exact successesOnly
  · intro each
    exact ⟨⟨each _, each _, each _⟩, ⟨each _, each _, each _⟩,
      ⟨each _, each _, each _, each _, each _, each _⟩, each _, each _⟩

/-! ### Tables in the place of single values -/

theorem Section.readRequired?_flat {α : Type} {decode : Keyed → Except SettingFault α} (part : Section)
    (name : String) (refuses : ∀ keyed, keyed.setting.IsTable → (decode keyed).toOption = none)
    (found : Option Setting) :
    part.readRequired? name decode (found.map Setting.flat) = part.readRequired? name decode found := by
  match found with
  | none | some (.leaf _ _) | some (.list _ _) => rfl
  | some (.table entries origin) =>
    exact (refuses ⟨part.keyOf name, .emptyTable⟩ ⟨_, _, rfl⟩).trans
      (refuses ⟨part.keyOf name, .table entries origin⟩ ⟨_, _, rfl⟩).symm

theorem Section.readOptional?_flat {α : Type} {decode : Keyed → Except SettingFault α} (part : Section)
    (name : String) (refuses : ∀ keyed, keyed.setting.IsTable → (decode keyed).toOption = none)
    (found : Option Setting) :
    part.readOptional? name decode (found.map Setting.flat) = part.readOptional? name decode found := by
  match found with
  | none | some (.leaf _ _) | some (.list _ _) => rfl
  | some (.table entries origin) =>
    exact congrArg (Option.map some) ((refuses ⟨part.keyOf name, .emptyTable⟩ ⟨_, _, rfl⟩).trans
      (refuses ⟨part.keyOf name, .table entries origin⟩ ⟨_, _, rfl⟩).symm)

/-- No single value is read from a table, so it does not matter which table it is. -/
theorem Documented.read?_flat (setting : Documented) (found : Option Setting) :
    setting.read? (found.map Setting.flat) = setting.read? found := by
  -- what is flat and was no table is as it was, and a table is never a value
  have text : ∀ keyed : Keyed, keyed.setting.IsTable → keyed.asText.toOption = none := by
    rintro ⟨key, _⟩ ⟨entries, origin, rfl⟩
    rfl
  have whole : ∀ keyed : Keyed, keyed.setting.IsTable → keyed.asWhole.toOption = none := by
    rintro ⟨key, _⟩ ⟨entries, origin, rfl⟩
    rfl
  have smallWhole : ∀ keyed : Keyed, keyed.setting.IsTable → keyed.asSmallWhole.toOption = none := by
    rintro ⟨key, _⟩ ⟨entries, origin, rfl⟩
    rfl
  have truth : ∀ keyed : Keyed, keyed.setting.IsTable → keyed.asTruth.toOption = none := by
    rintro ⟨key, _⟩ ⟨entries, origin, rfl⟩
    rfl
  match setting with
  | .text .logDir => exact congrArg (Option.map _) (Section.readOptional?_flat _ _ text _)
  | .text .baseUrl | .text .apiKey | .text .endpoint | .text .targetUrl | .text .level =>
    exact congrArg (Option.map _) (Section.readRequired?_flat _ _ text _)
  | .whole .maxWait => exact congrArg (Option.map _) (Section.readOptional?_flat _ _ whole _)
  | .whole .maxAttempts => exact congrArg (Option.map _) (Section.readRequired?_flat _ _ smallWhole _)
  | .whole .requestTimeout | .whole .interval | .whole .concurrency | .whole .workerBudget =>
    exact congrArg (Option.map _) (Section.readRequired?_flat _ _ whole _)
  | .truth _ => exact congrArg (Option.map _) (Section.readRequired?_flat _ _ truth _)

theorem Documented.read?_congr (setting : Documented) {found found' : Option Setting}
    (same : found.map Setting.flat = found'.map Setting.flat) : setting.read? found = setting.read? found' := by
  rw [← setting.read?_flat found, same, setting.read?_flat]

end ServiceProbe.Config
