import ServiceProbe.Config.Basic
import ServiceProbe.Config.Format
import ServiceProbe.Text.Case

/-!
# Loading a configuration

A configuration is read from layers, each put over the ones before it: the built-in values, then files,
then the environment. Either one file is named, or the base file and the file of the chosen environment
are read where they exist. Variables of the environment name settings by their path. What comes out is
decoded, setting by setting, and validated. `Keyed.asText`, `Keyed.asWhole` and `Keyed.asTruth` read a setting as
a text, as a natural number and as a truth value, and say what was wrong if they cannot.
-/

namespace ServiceProbe.Config

/-- The variables around the program with their values, in the order in which they are put over the files. A
program keeps them in a table by its hashes, so that the order may change from one start to the next; it matters
where two variables bear on one setting, as those of which one is written in capitals and the other is not. -/
abbrev Environment := List (String × String)

/-! ### Layers -/

/-- Settings put over a tree, one after the other. -/
def overlay (settings : Layer) (held : Setting) : Setting :=
  settings.foldl (fun held (key, setting) => held.place (KeyStep.ofKey key) setting) held

private def builtIn (value : Scalar) : Setting :=
  .leaf value none

private def builtInWhole (n : Nat) : Setting :=
  builtIn (.whole (Int64.ofNat n))

/-- The built-in values. The settings that may be missing have none. -/
def defaults : Setting :=
  let config : Config := {}
  overlay
    [("api.base_url", builtIn (.text config.api.baseUrl)),
      ("api.api_key", builtIn (.text config.api.apiKey)),
      ("api.request_timeout_ms", builtInWhole config.api.requestTimeoutMillis.toNat),
      ("polling.interval_ms", builtInWhole config.polling.intervalMillis.toNat),
      ("polling.max_attempts", builtInWhole config.polling.maxAttempts.toNat),
      ("load.endpoint", builtIn (.text config.load.endpoint)),
      ("load.target_url", builtIn (.text config.load.targetUrl)),
      ("load.concurrency", builtInWhole config.load.concurrency.toNat),
      ("load.worker_budget", builtInWhole config.load.workerBudget.toNat),
      ("load.cancelled_counts_as_success", builtIn (.truth config.load.cancelledCountsAsSuccess)),
      ("load.successes_only_latency", builtIn (.truth config.load.successesOnlyLatency)),
      ("logging.level", builtIn (.text config.logging.level))]
    Setting.emptyTable

/-- The tree with the settings of a file over it. -/
def overlayFile (files : Files) (path text : String) (held : Setting) : Except Error Setting :=
  (files.read path text).map (overlay · held)

/-! ### The environment -/

/-- What a variable's name begins with if it names a setting. -/
def variableMark : String := "taskprobe__"

/-- What the environment calls itself as an origin. -/
def environmentOrigin : String := "the environment"

/-- Two underscores stand for a point. -/
def pointed : List Char → List Char
  | '_' :: '_' :: rest => '.' :: pointed rest
  | c :: rest => c :: pointed rest
  | [] => []

/-- The key of the setting a variable names. -/
def keyOf? (variableName : String) : Option String :=
  (Text.after? variableMark.toList (Text.lower variableName.toList)).map fun rest =>
    String.ofList (pointed rest)

/-- The value of a variable: a truth value, a whole number, a real one, else a text. -/
def scalarOf (value : String) : Scalar :=
  let text := value.toList
  let small := String.ofList (Text.lower text)
  if small = "true" then .truth true
  else if small = "false" then .truth false
  else
    match Number.whole? text >>= Number.int64? with
    | some n => .whole n
    | none =>
      match Number.Double.read? text with
      | some x => .real x
      | none => .text value

/-- The settings in the environment. -/
def environmentLayer (environment : Environment) : Layer :=
  environment.filterMap fun (name, value) =>
    (keyOf? name).map fun key => (key, .leaf (scalarOf value) (some environmentOrigin))

/-! ### Reading a setting as a value -/

/-- A setting under its key, as messages name it. -/
structure Keyed where
  key : String
  setting : Setting

namespace Keyed

private def mismatch (keyed : Keyed) (wanted : Wanted) : SettingFault :=
  .mismatch keyed.setting wanted keyed.key

/-- The setting as a text. Other single values are written out. -/
def asText (keyed : Keyed) : Except SettingFault String :=
  match keyed.setting with
  | .leaf (.text s) _ => .ok s
  | .leaf (.truth b) _ => .ok (if b then "true" else "false")
  | .leaf (.whole n) _ => .ok (toString n.toInt)
  | .leaf (.real x) _ => .ok x.positional
  | _ => .error (keyed.mismatch .text)

/-- The words for a truth value, in small letters. -/
def truthOfWord? (small : String) : Option Bool :=
  if ["true", "on", "yes"].contains small then some true
  else if ["false", "off", "no"].contains small then some false
  else none

/-- The setting as a natural number of 64 bits. -/
def asWhole (keyed : Keyed) : Except SettingFault UInt64 :=
  match keyed.setting with
  | .leaf (.whole n) origin =>
    if n < 0 then .error (.negative n keyed.key origin) else .ok (UInt64.ofNat n.toInt.toNat)
  | .leaf (.real x) _ => .ok (UInt64.ofNat (x.roundWithin 0 (UInt64.size - 1)).toNat)
  | .leaf (.truth b) _ => .ok (if b then 1 else 0)
  | .leaf (.text s) _ =>
    match truthOfWord? (String.ofList (Text.lower s.toList)) with
    | some b => .ok (if b then 1 else 0)
    | none =>
      match (Number.natural? s.toList).filter (· < UInt64.size) with
      | some n => .ok (UInt64.ofNat n)
      | none => .error (keyed.mismatch .whole)
  | _ => .error (keyed.mismatch .whole)

/-- The setting as a natural number of 32 bits. -/
def asSmallWhole (keyed : Keyed) : Except SettingFault UInt32 := do
  let n ← keyed.asWhole
  if n.toNat < UInt32.size then return UInt32.ofNat n.toNat else throw (.tooLarge n.toNat keyed.key)

/-- The setting as a truth value. -/
def asTruth (keyed : Keyed) : Except SettingFault Bool :=
  match keyed.setting with
  | .leaf (.truth b) _ => .ok b
  | .leaf (.whole n) _ => .ok (n != 0)
  | .leaf (.real x) _ => .ok (!x.isZero)
  | .leaf (.text s) origin =>
    let small := String.ofList (Text.lower s.toList)
    if small = "1" then .ok true
    else if small = "0" then .ok false
    else
      match truthOfWord? small with
      | some b => .ok b
      | none => .error (.mismatch (.leaf (.text small) origin) .truth keyed.key)
  | _ => .error (keyed.mismatch .truth)

end Keyed

/-! ### Sections -/

/-- A section: its name, what a message calls it, and the names of its settings in their order. -/
structure Section where
  name : String
  shape : Decoder.Shape
  settings : List String
  /-- How many settings have to be there, counted from the first. -/
  required : Nat

namespace Section

/-- A setting of a section, by its place. A list gives the settings by their order, and a table by their
names. -/
def find? (part : Section) (held : Setting) (place : Nat) : Option Keyed :=
  match held with
  | .list items _ => items[place]?.map fun item => ⟨s!"{part.name}[{place}]", item⟩
  | _ =>
    part.settings[place]?.bind fun name =>
      (Entries.find? name held.entries).map fun entry => ⟨s!"{part.name}.{name}", entry⟩

/-- The fault of a section that lacks a setting. -/
def lacks (part : Section) (held : Setting) (place : Nat) : SettingFault :=
  match held with
  | .list _ _ => .shortSection place part.shape.name part.shape.arity
  | _ => .missing (part.settings.getD place "")

/-- A setting that may be missing, or be nothing. -/
def optional {α : Type} (part : Section) (held : Setting) (place : Nat)
    (decode : Keyed → Except SettingFault α) : Except SettingFault (Option α) :=
  match part.find? held place with
  | some ⟨_, .leaf .nothing _⟩ => .ok none
  | some keyed => (decode keyed).map some
  | none => .ok none

/-- A setting that has to be there. -/
def required? {α : Type} (part : Section) (held : Setting) (place : Nat)
    (decode : Keyed → Except SettingFault α) : Except SettingFault α :=
  match part.find? held place with
  | some keyed => decode keyed
  | none => .error (part.lacks held place)

/-- The section of a tree; it has to be a table or a list. -/
def of (part : Section) (tree : Setting) : Except SettingFault Setting :=
  match Entries.find? part.name tree.entries with
  | none => .error (.missing part.name)
  | some (.leaf value origin) => .error (.noSection (.leaf value origin) part.shape.name)
  | some held => .ok held

end Section

def apiSection : Section :=
  ⟨"api", ApiSettings.shape, ["base_url", "api_key", "request_timeout_ms"], 3⟩

def pollingSection : Section :=
  ⟨"polling", PollingSettings.shape, ["interval_ms", "max_attempts", "max_wait_ms"], 2⟩

def loadSection : Section :=
  ⟨"load", LoadSettings.shape,
    ["endpoint", "target_url", "concurrency", "worker_budget", "cancelled_counts_as_success",
      "successes_only_latency"], 6⟩

def loggingSection : Section :=
  ⟨"logging", LoggingSettings.shape, ["level", "log_dir"], 1⟩

def readApi (tree : Setting) : Except SettingFault ApiSettings := do
  let held ← apiSection.of tree
  return {
    baseUrl := ← apiSection.required? held 0 Keyed.asText
    apiKey := ← apiSection.required? held 1 Keyed.asText
    requestTimeoutMillis := ← apiSection.required? held 2 Keyed.asWhole }

def readPolling (tree : Setting) : Except SettingFault PollingSettings := do
  let held ← pollingSection.of tree
  return {
    intervalMillis := ← pollingSection.required? held 0 Keyed.asWhole
    maxAttempts := ← pollingSection.required? held 1 Keyed.asSmallWhole
    maxWaitMillis := ← pollingSection.optional held 2 Keyed.asWhole }

def readLoad (tree : Setting) : Except SettingFault LoadSettings := do
  let held ← loadSection.of tree
  return {
    endpoint := ← loadSection.required? held 0 Keyed.asText
    targetUrl := ← loadSection.required? held 1 Keyed.asText
    concurrency := ← loadSection.required? held 2 Keyed.asWhole
    workerBudget := ← loadSection.required? held 3 Keyed.asWhole
    cancelledCountsAsSuccess := ← loadSection.required? held 4 Keyed.asTruth
    successesOnlyLatency := ← loadSection.required? held 5 Keyed.asTruth }

def readLogging (tree : Setting) : Except SettingFault LoggingSettings := do
  let held ← loggingSection.of tree
  return {
    level := ← loggingSection.required? held 0 Keyed.asText
    logDir := ← loggingSection.optional held 1 Keyed.asText }

/-- The configuration in a tree of settings. -/
def ofSettings (tree : Setting) : Except SettingFault Config := do
  return {
    api := ← readApi tree
    polling := ← readPolling tree
    load := ← readLoad tree
    logging := ← readLogging tree }

/-! ### Loading -/

/-- A tree of settings, decoded and validated. -/
def finish (tree : Setting) : Except Error Config :=
  match ofSettings tree with
  | .error fault => .error (.config (.setting fault))
  | .ok config => do
    config.validate
    return config

/-- The variable that chooses the environment. -/
def selectorName : String := "TASKPROBE_ENV"

/-- The environment without a choice. -/
def defaultEnvironment : String := "development"

/-- The tree with an optional file over it. -/
def overlayIfThere (files : Files) (stem : String) (held : Setting) : Except Error Setting :=
  match files.named? stem with
  | some (path, text) => overlayFile files path text held
  | none => .ok held

/-- Loads the base file and the file of the chosen environment, if they are there, and the
environment. -/
def loadStandard (environment : Environment) (files : Files) : Except Error Config := do
  let chosen := (environment.lookup selectorName).getD defaultEnvironment
  let tree ← overlayIfThere files "config/taskprobe" defaults
  let tree ← overlayIfThere files s!"config/taskprobe.{chosen}" tree
  finish (overlay (environmentLayer environment) tree)

/-- Loads one file, which has to be there, and the environment. -/
def loadFromFile (environment : Environment) (files : Files) (path : String) : Except Error Config :=
  match files.text? path with
  | none => .error (.config (.fileNotFound path))
  | some text => do
    let tree ← overlayFile files path text defaults
    finish (overlay (environmentLayer environment) tree)

end ServiceProbe.Config
