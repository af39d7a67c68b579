import ServiceProbe.Proofs.Config.Documented
import ServiceProbe.Proofs.Config.Loaders
import ServiceProbe.Proofs.Url.Cutting

/-!
# Which layer a setting is taken from

Over the built-in values come the files, in their order, and over them the environment. Each setting is taken from
the highest layer that gives a value for it, whatever the layers below have there, and whatever any layer has for
the other settings.

* `Loader.load_of_layers?` — a configuration is decoded from all layers and validated;
* `Loader.exists_layers?_of_load` — whenever one is loaded, there are such layers;
* `Loader.documents_standard` — the files of the standard way to load, by their names;
* `Loader.load_takes_highest` — what is loaded holds each setting as the highest layer gives it, and it is loaded
  if these values can be read and run with.
-/

namespace ServiceProbe.Config

open Url (exists_of_bind_eq_ok)

/-! ### Values of a setting in layers -/

namespace Documented

/-- All settings. -/
def all : List Documented :=
  [.text .baseUrl, .text .apiKey, .whole .requestTimeout, .whole .interval, .whole .maxAttempts, .whole .maxWait,
    .text .endpoint, .text .targetUrl, .whole .concurrency, .whole .workerBudget,
    .truth .cancelledCountsAsSuccess, .truth .successesOnlyLatency, .text .level, .text .logDir]

theorem mem_all (setting : Documented) : setting ∈ all := by
  cases setting with
  | text kind => cases kind <;> decide
  | whole kind => cases kind <;> decide
  | truth kind => cases kind <;> decide

/-- The built-in value. -/
def builtIn? (setting : Documented) : Option Setting :=
  defaults.find? [setting.part.name, setting.name]

/-- The values that a layer gives for the setting. -/
def valuesIn (setting : Documented) (layer : Layer) : List Setting :=
  valuesAt setting.part.name setting.name layer

/-- The value of the setting over the built-in one. -/
def value? (setting : Documented) (layers : List Layer) : Option Setting :=
  Setting.cover (layers.flatMap setting.valuesIn) setting.builtIn?

/-- The built-in values are those of the built-in configuration, in sections that are tables. -/
theorem builtIn_all :
    all.all fun setting =>
      setting.read? setting.builtIn? = some (setting.held? {}) &&
        match Entries.find? setting.part.name defaults.entries with
        | some (.table _ _) => true
        | _ => false := by
  decide +kernel

theorem read?_builtIn? (setting : Documented) : setting.read? setting.builtIn? = some (setting.held? {}) := by
  have checked := List.all_eq_true.1 builtIn_all setting setting.mem_all
  exact of_decide_eq_true (Bool.and_eq_true_iff.1 checked).1

theorem hasSection_defaults (setting : Documented) : Setting.HasSection setting.part.name defaults := by
  have checked := (Bool.and_eq_true_iff.1 (List.all_eq_true.1 builtIn_all setting setting.mem_all)).2
  split at checked
  · next entries origin found => exact ⟨_, found, entries, origin, rfl⟩
  · cases checked

/-- The highest layer that gives a value for a setting decides it. -/
theorem value?_of_highest (setting : Documented) {layer : Layer} {before : List Setting} {value : Setting}
    (gives : setting.valuesIn layer = before ++ [value]) (something : ∀ origin, value ≠ .table [] origin)
    {above : List Layer} (silent : ∀ other ∈ above, setting.valuesIn other = []) (below : List Layer) :
    setting.value? (below ++ layer :: above) = some value := by
  have none : above.flatMap setting.valuesIn = [] := List.flatMap_eq_nil_iff.2 silent
  rw [value?, List.flatMap_append, List.flatMap_cons, none, List.append_nil, gives, Setting.cover_append,
    Setting.cover_append]
  change some (value.atop _) = _
  rw [Setting.atop]
  exact something

/-- A setting without a value in any layer is as built in. -/
theorem value?_of_silent (setting : Documented) {layers : List Layer}
    (silent : ∀ layer ∈ layers, setting.valuesIn layer = []) : setting.value? layers = setting.builtIn? := by
  rw [value?, List.flatMap_eq_nil_iff.2 silent]
  rfl

/-- Only the values for a setting matter to it. -/
theorem value?_congr (setting : Documented) {layers layers' : List Layer}
    (same : layers.map setting.valuesIn = layers'.map setting.valuesIn) :
    setting.value? layers = setting.value? layers' := by
  rw [value?, value?, List.flatMap_def, same, ← List.flatMap_def]

end Documented

/-! ### Layers in order -/

/-- A layer that does nothing to the settings but give values for them. -/
def Orderly (layer : Layer) : Prop :=
  ∀ setting : Documented, OrderlyAt setting.part.name setting.name layer

theorem Documented.valuesIn_flatten (setting : Documented) (layers : List Layer) :
    setting.valuesIn layers.flatten = layers.flatMap setting.valuesIn := by
  induction layers with
  | nil => rfl
  | cons layer rest ih =>
    rw [List.flatten_cons, List.flatMap_cons, ← ih]
    exact List.flatMap_append

section Overlaid

variable {layers : List Layer} (orderly : ∀ layer ∈ layers, Orderly layer) (setting : Documented)
include orderly

theorem orderlyAt_flatten : OrderlyAt setting.part.name setting.name layers.flatten := by
  intro entry member
  obtain ⟨layer, isLayer, inLayer⟩ := List.mem_flatten.1 member
  exact orderly layer isLayer setting entry inLayer

/-- Under orderly layers each setting is what the layers make of it. -/
theorem flat_find?_layers :
    ((overlay layers.flatten defaults).find? [setting.part.name, setting.name]).map Setting.flat =
      (setting.value? layers).map Setting.flat := by
  rw [flat_find?_overlay (orderlyAt_flatten orderly setting), Documented.value?, ← Documented.valuesIn_flatten]
  rfl

/-- They are decoded as a configuration exactly if each setting is read as the configuration holds it. -/
theorem ofSettings_layers_eq_ok_iff {config : Config} :
    ofSettings (overlay layers.flatten defaults) = .ok config ↔
      ∀ setting : Documented, setting.read? (setting.value? layers) = some (setting.held? config) := by
  rw [ofSettings_eq_ok_iff fun setting =>
    hasSection_overlay setting.hasSection_defaults (orderlyAt_flatten orderly setting)]
  refine forall_congr' fun setting => ?_
  rw [Documented.IsHeld, setting.read?_congr (flat_find?_layers orderly setting)]

end Overlaid

theorem finish_eq_ok_iff {tree : Setting} {config : Config} :
    finish tree = .ok config ↔ ofSettings tree = .ok config ∧ config.validate = .ok () := by
  constructor
  · exact of_finish
  · rintro ⟨decoded, valid⟩
    rw [finish, decoded]
    exact bind_eq_ok_iff.2 ⟨(), valid, rfl⟩

/-! ### Loading -/

namespace Loader

variable {environment : Environment} {files : Files} {config : Config}

/-- A named file has to be there. -/
def starts (loader : Loader) (files : Files) : Bool :=
  match loader with
  | standard => true
  | file path => (files.text? path).isSome

/-- The layers over the built-in values: the files, in their order, and the environment. There are none if a file
cannot be read. -/
def layers? (loader : Loader) (environment : Environment) (files : Files) : Option (List Layer) :=
  if loader.starts files then
    ((loader.documents environment files).mapM files.readDocument?).map (· ++ [environmentLayer environment])
  else none

theorem overlayFile_eq {path text : String} {layer : Layer} (isRead : files.Reads (path, text) layer)
    (held : Setting) : overlayFile files path text held = .ok (overlay layer held) := by
  have isRead : files.read path text = .ok layer := toOption_eq_some_iff.1 isRead
  rw [overlayFile, isRead]
  rfl

theorem overlayIfThere_eq {stem : String} {read : List Layer}
    (isRead : (files.named? stem).toList.mapM files.readDocument? = some read) (held : Setting) :
    overlayIfThere files stem held = .ok (overlay read.flatten held) := by
  rw [overlayIfThere]
  cases named : files.named? stem with
  | none =>
    rw [named] at isRead
    obtain rfl : [] = read := Option.some.inj isRead
    rfl
  | some document =>
    rw [named, Option.toList_some, List.mapM_cons, Option.bind_eq_bind, Option.bind_eq_some_iff] at isRead
    obtain ⟨layer, isLayer, rest⟩ := isRead
    obtain rfl : [layer] = read := Option.some.inj rest
    exact (overlayFile_eq isLayer held).trans (by rw [List.flatten_singleton])

/-- **Loading from layers.** -/
theorem load_of_layers? {loader : Loader} {layers : List Layer}
    (h : loader.layers? environment files = some layers) :
    loader.load environment files = finish (overlay layers.flatten defaults) := by
  obtain ⟨started, h⟩ := Option.ite_none_right_eq_some.1 h
  obtain ⟨read, isRead, rfl⟩ := Option.map_eq_some_iff.1 h
  rw [List.flatten_append, List.flatten_singleton, overlay_append]
  cases loader with
  | standard =>
    -- each of the two documents gives one layer, or none if it is not there
    rw [documents, List.mapM_append] at isRead
    obtain ⟨first, readFirst, isRead⟩ := Option.bind_eq_some_iff.1 isRead
    obtain ⟨second, readSecond, isRead⟩ := Option.bind_eq_some_iff.1 isRead
    obtain rfl : first ++ second = read := Option.some.inj isRead
    rw [load, loadStandard, overlayIfThere_eq readFirst, List.flatten_append, overlay_append]
    exact congrArg (· >>= fun tree => finish (overlay (environmentLayer environment) tree))
      (overlayIfThere_eq readSecond _)
  | file path =>
    obtain ⟨text, isText⟩ := Option.isSome_iff_exists.1 started
    rw [documents, isText] at isRead
    obtain ⟨layer, isLayer, isRead⟩ := Option.bind_eq_some_iff.1 isRead
    obtain rfl : [layer] = read := Option.some.inj isRead
    rw [load, loadFromFile, isText]
    dsimp only
    rw [overlayFile_eq isLayer, List.flatten_singleton]
    rfl

theorem mapM_of_reads {documents : List (String × String)} {read : List Layer}
    (h : List.Forall₂ files.Reads documents read) : documents.mapM files.readDocument? = some read := by
  induction h with
  | nil => rfl
  | cons first rest ih =>
    rw [List.mapM_cons, first, ih]
    rfl

/-- What was loaded was read from layers. -/
theorem exists_layers?_of_load {loader : Loader} (h : loader.load environment files = .ok config) :
    ∃ layers, loader.layers? environment files = some layers := by
  obtain ⟨read, isRead, -⟩ := exists_layers h
  -- a named file that is missing ends the loading with an error
  have started : loader.starts files = true := by
    cases loader with
    | standard => rfl
    | file path =>
      rw [load, loadFromFile] at h
      cases there : files.text? path with
      | none =>
        rw [there] at h
        cases h
      | some text => exact Option.isSome_of_eq_some there
  refine ⟨read ++ [environmentLayer environment], ?_⟩
  rw [layers?, if_pos started, mapM_of_reads isRead]
  rfl

/-! ### The standard files -/

/-- Of the files that can be called by a stem only the one in TOML may be there: none has the stem itself as its
name, and none the ending of another format behind it. -/
structure CalledByTomlAlone (files : Files) (stem : String) : Prop where
  bare : files.text? stem = none
  foreign : ∀ (format : ForeignFormat), ∀ ending ∈ (FileFormat.foreign format).endings,
    files.text? (stem ++ ending) = none

theorem toml_mem_endings (files : Files) : ".toml" ∈ files.endings :=
  List.mem_flatMap.2 ⟨.toml, files.perm_all.mem_iff.2 List.mem_cons_self, List.mem_cons_self⟩

/-- Where only one member can find something, it is found or nothing is. -/
theorem findSome?_eq_of_forall_ne {α β : Type} {f : α → Option β} {list : List α} {a : α} (member : a ∈ list)
    (others : ∀ b ∈ list, b ≠ a → f b = none) : list.findSome? f = f a := by
  cases found : list.findSome? f with
  | none => exact (List.findSome?_eq_none_iff.1 found a member).symm
  | some value =>
    obtain ⟨b, isMember, isValue⟩ := List.exists_of_findSome?_eq_some found
    by_cases same : b = a
    · rw [← same, isValue]
    · rw [others b isMember same] at isValue
      cases isValue

section Stem

variable {stem : String} {rest : List Char}
  (isStem : stem.toList = "config".toList ++ '/' :: 't' :: rest) (noSlash : '/' ∉ rest)
include isStem noSlash

theorem steps_stem : Path.steps stem = ["config", String.ofList ('t' :: rest)] := by
  have cut : Url.splitBy (· == '/') stem.toList = ["config".toList, 't' :: rest] := by
    have joined : stem.toList = "config".toList ++ ['t' :: rest].flatMap ('/' :: ·) := by
      rw [isStem, List.flatMap_singleton]
    rw [joined]
    refine Url.splitBy_append_flatMap (beq_self_eq_true '/') ?_
    intro part member d inside
    rcases List.mem_cons.1 member with rfl | member
    · have clear : "config".toList.all (fun d => !(d == '/')) = true := by decide
      exact Bool.not_eq_eq_eq_not.1 (List.all_eq_true.1 clear d inside)
    · obtain rfl := List.mem_singleton.1 member
      rcases List.mem_cons.1 inside with rfl | inside
      · decide
      · exact beq_false_of_ne fun same => noSlash (same ▸ inside)
  have other : ∀ name : String, (∀ after, name.toList ≠ 't' :: after) → String.ofList ('t' :: rest) ≠ name := by
    rintro name different rfl
    exact different rest String.toList_ofList
  -- a name that begins with `t` is neither empty nor a dot
  have kept : Path.isIdle (String.ofList ('t' :: rest)) = false := by
    rw [Path.isIdle, decide_eq_false (other "" nofun), decide_eq_false (other "." nofun)]
    rfl
  have keptToo : Path.isIdle (String.ofList "config".toList) = false := by decide
  rw [Path.steps, Path.allSteps, Url.splitOn_eq_splitBy, cut]
  simp only [List.map_cons, List.map_nil, List.filter_cons, List.filter_nil, kept, keptToo, Bool.not_false, if_true]
  rw [String.ofList_toList]

/-- An ending comes right behind the stem. -/
theorem withEnding?_stem (ending : String) : Path.withEnding? ending stem = some (stem ++ ending) := by
  have name : Path.fileName? stem = some (String.ofList ('t' :: rest)) := by
    rw [Path.fileName?, steps_stem isStem noSlash]
    refine Option.filter_some_pos (decide_eq_true ?_)
    rintro same
    exact absurd (String.toList_ofList.symm.trans (congrArg String.toList same)) nofun
  have reversed : stem.toList.reverse = rest.reverse ++ 't' :: '/' :: "config".toList.reverse := by
    rw [isStem]
    simp
  have outside : '/' ∉ rest.reverse := fun member => noSlash (List.mem_reverse.1 member)
  -- the stem ends neither with a slash nor with a slash and a dot: its end is that of the name
  refine Path.withEnding?_eq ending name ?_ ?_
  · intro other same
    rw [reversed] at same
    cases isRest : rest.reverse with
    | nil =>
      rw [isRest] at same
      exact absurd (List.cons.inj same).1 (by decide)
    | cons c more =>
      rw [isRest] at same outside
      exact outside ((List.cons.inj same).1 ▸ List.mem_cons_self)
  · intro other same
    rw [reversed] at same
    match isRest : rest.reverse with
    | [] =>
      rw [isRest] at same
      exact absurd (List.cons.inj same).1 (by decide)
    | [_] =>
      rw [isRest] at same
      exact absurd (List.cons.inj (List.cons.inj same).2).1 (by decide)
    | _ :: d :: more =>
      rw [isRest] at same outside
      exact outside (List.mem_cons_of_mem _ ((List.cons.inj (List.cons.inj same).2).1 ▸ List.mem_cons_self))

/-- The file in TOML is the one that a stem stands for if no other is called so. -/
theorem named?_stem (alone : CalledByTomlAlone files stem) :
    files.named? stem = (files.text? (stem ++ ".toml")).map (stem ++ ".toml", ·) := by
  rw [Files.named?, alone.bare]
  dsimp only
  -- the order of the endings does not matter where only one of them can find a file
  rw [findSome?_eq_of_forall_ne (a := ".toml") (toml_mem_endings files), withEnding?_stem isStem noSlash]
  · rfl
  · intro ending member other
    rw [withEnding?_stem isStem noSlash, Option.bind_eq_bind, Option.bind_some]
    obtain ⟨format, -, isEnding⟩ := List.mem_flatMap.1 member
    cases format with
    | toml => exact absurd (List.mem_singleton.1 isEnding) other
    | foreign format =>
      rw [alone.foreign format ending isEnding]
      rfl

end Stem

/-- **The standard files.** They are the base file and the file of the chosen environment, unless another file is
called as one of them but for the ending, or the environment has a slash in its name. -/
theorem documents_standard {chosen : String}
    (isChosen : (environment.lookup selectorName).getD defaultEnvironment = chosen) (noSlash : '/' ∉ chosen.toList)
    (alone : CalledByTomlAlone files "config/taskprobe")
    (alone' : CalledByTomlAlone files s!"config/taskprobe.{chosen}") :
    standard.documents environment files =
      (file "config/taskprobe.toml").documents environment files ++
        (file s!"config/taskprobe.{chosen}.toml").documents environment files := by
  subst isChosen
  -- behind `config/` neither stem has a slash, so the ending is put right behind it
  have dotted : '/' ∉ "askprobe.".toList ++ ((environment.lookup selectorName).getD defaultEnvironment).toList := by
    rw [List.mem_append, not_or]
    exact ⟨by decide, noSlash⟩
  have base : files.named? "config/taskprobe" = _ :=
    named?_stem (show _ = _ ++ '/' :: 't' :: "askprobe".toList from rfl) (by decide) alone
  have other : files.named? s!"config/taskprobe.{(environment.lookup selectorName).getD defaultEnvironment}" = _ :=
    named?_stem (String.toList_append ..) dotted alone'
  rw [documents, base, other]
  rfl

/-- A named file is the only one that is read. -/
theorem load_file_congr {path : String} {files' : Files} (same : files'.text? path = files.text? path)
    (sameReaders : files'.readForeign = files.readForeign) :
    (file path).load environment files' = (file path).load environment files := by
  have sameRead : files'.read = files.read := by
    funext path text
    rw [Files.read, Files.read, sameReaders]
  have sameOverlay : overlayFile files' = overlayFile files := by
    funext path text held
    rw [overlayFile, overlayFile, sameRead]
  rw [load, load, loadFromFile, loadFromFile, same, sameOverlay]

/-! ### What is loaded -/

variable {loader : Loader} {layers : List Layer}

/-- What is loaded from orderly layers, setting by setting. -/
theorem load_eq_ok_iff (isRead : loader.layers? environment files = some layers)
    (orderly : ∀ layer ∈ layers, Orderly layer) :
    loader.load environment files = .ok config ↔
      (∀ setting : Documented, setting.read? (setting.value? layers) = some (setting.held? config)) ∧
        config.validate = .ok () := by
  rw [load_of_layers? isRead, finish_eq_ok_iff, ofSettings_layers_eq_ok_iff orderly]

/-- **Precedence of layers.** Let a configuration be loaded from layers that do nothing but give values for
settings. It is loaded exactly if each setting can be read from its value over the built-in one and what is read can
be run with; and then it holds what was read. That value is the one of the highest layer that gives one, and the
built-in one if none does. So what layers give for other settings does not matter to a setting, and what lower
layers give does not matter to anything where a higher one gives a value too. A named file is the only one that is
read, and the standard ones are known by their names, if no other file is called as they are but for the ending.

Of several values in one layer, as of variables that differ in capitals only, the last counts. For the environment
which one is the last is the order's choice in which the program keeps its variables (`Environment`). -/
theorem load_takes_highest (isRead : loader.layers? environment files = some layers)
    (orderly : ∀ layer ∈ layers, Orderly layer) :
    (∀ config, loader.load environment files = .ok config ↔
      (∀ setting : Documented, setting.read? (setting.value? layers) = some (setting.held? config)) ∧
        config.validate = .ok ()) ∧
    (∀ (setting : Documented) (below above : List Layer) (layer : Layer) (before : List Setting) (value : Setting),
      layers = below ++ layer :: above → setting.valuesIn layer = before ++ [value] →
      (∀ origin, value ≠ .table [] origin) → (∀ other ∈ above, setting.valuesIn other = []) →
      setting.value? layers = some value) ∧
    (∀ (setting : Documented) (config : Config), (∀ layer ∈ layers, setting.valuesIn layer = []) →
      loader.load environment files = .ok config → setting.held? config = setting.held? {}) ∧
    (∀ (loader' : Loader) (environment' : Environment) (files' : Files) (layers' : List Layer),
      loader'.layers? environment' files' = some layers' →
      (∀ layer ∈ layers', Orderly layer) →
      (∀ (setting : Documented) (config config' : Config),
        layers.map setting.valuesIn = layers'.map setting.valuesIn →
        loader.load environment files = .ok config → loader'.load environment' files' = .ok config' →
        setting.held? config = setting.held? config') ∧
      ((∀ setting : Documented, setting.value? layers = setting.value? layers') → ∀ config,
        loader.load environment files = .ok config ↔ loader'.load environment' files' = .ok config)) ∧
    (∀ (path : String) (files' : Files), loader = file path → files'.text? path = files.text? path →
      files'.readForeign = files.readForeign →
      loader.load environment files' = loader.load environment files) ∧
    (∀ chosen : String, loader = standard → (environment.lookup selectorName).getD defaultEnvironment = chosen →
      '/' ∉ chosen.toList → CalledByTomlAlone files "config/taskprobe" →
      CalledByTomlAlone files s!"config/taskprobe.{chosen}" →
      loader.documents environment files =
        (file "config/taskprobe.toml").documents environment files ++
          (file s!"config/taskprobe.{chosen}.toml").documents environment files) := by
  refine ⟨fun config => load_eq_ok_iff isRead orderly, ?_, ?_, ?_, ?_, ?_⟩
  · -- the highest layer with a value, and no layer at all
    rintro setting below above layer before value rfl gives something silent
    exact setting.value?_of_highest gives something silent below
  · intro setting config silent loads
    have held := ((load_eq_ok_iff isRead orderly).1 loads).1 setting
    rw [setting.value?_of_silent silent, setting.read?_builtIn?] at held
    exact (Option.some.inj held).symm
  · -- what is loaded depends on the values that count, and on nothing else
    intro loader' environment' files' layers' isRead' orderly'
    constructor
    · intro setting config config' same loads loads'
      have held := ((load_eq_ok_iff isRead orderly).1 loads).1 setting
      have held' := ((load_eq_ok_iff isRead' orderly').1 loads').1 setting
      rw [setting.value?_congr same] at held
      exact Option.some.inj (held.symm.trans held')
    · intro same config
      rw [load_eq_ok_iff isRead orderly, load_eq_ok_iff isRead' orderly']
      simp only [same]
  · rintro path files' rfl same sameReaders
    exact load_file_congr same sameReaders
  · rintro chosen rfl isChosen noSlash alone alone'
    exact documents_standard isChosen noSlash alone alone'

/-- Three layers over the built-in one. The lowest has something in it that is no number, and a number that is put
over. -/
def threeLayers : Environment × Files :=
  ([("TASKPROBE_ENV", "stage"), ("TASKPROBE__POLLING__INTERVAL_MS", "1500")], .ofTexts fun path =>
    if path = "config/taskprobe.toml" then
      some "[polling]\ninterval_ms = \"soon\"\nmax_attempts = 7\n[load]\nconcurrency = 1\n"
    else if path = "config/taskprobe.stage.toml" then some "[polling]\nmax_attempts = 9\n"
    else none)

def threeLayersConfig : Config :=
  { polling := { intervalMillis := 1500, maxAttempts := 9 }, load := { concurrency := 1 } }

/-- Each setting is taken from another layer. -/
theorem load_takes_highest_of_three :
    ∃ layers, standard.layers? threeLayers.1 threeLayers.2 = some layers ∧ (∀ layer ∈ layers, Orderly layer) ∧
      standard.load threeLayers.1 threeLayers.2 = .ok threeLayersConfig ∧
      ∀ setting : Documented, setting.read? (setting.value? layers) = some (setting.held? threeLayersConfig) := by
  have checked : (standard.layers? threeLayers.1 threeLayers.2).any fun layers =>
      layers.all fun layer => Documented.all.all fun setting => layer.all fun entry =>
        Setting.isOrderly setting.part.name setting.name (KeyStep.ofKey entry.1) entry.2 := by
    decide +kernel
  obtain ⟨layers, isRead, checked⟩ := (Option.any_eq_true _ _).1 checked
  have orderly : ∀ layer ∈ layers, Orderly layer := fun layer member setting =>
    List.all_eq_true.1 (List.all_eq_true.1 (List.all_eq_true.1 checked layer member) setting setting.mem_all)
  have loads : standard.load threeLayers.1 threeLayers.2 = .ok threeLayersConfig :=
    eq_ok_of_toOption (by decide +kernel)
  exact ⟨layers, isRead, orderly, loads, ((load_takes_highest isRead orderly).1 _).1 loads |>.1⟩

/-- The environment is called as the ending of its own file: what is found by the stem is the base file. -/
def namedAsEnding : Environment × Files :=
  ([("TASKPROBE_ENV", "toml")], .ofTexts fun path =>
    if path = "config/taskprobe.toml" then some "[load]\nconcurrency = 1\n"
    else if path = "config/taskprobe.toml.toml" then some "[load]\nconcurrency = 3\n"
    else none)

/-- The file of such an environment is not read, and its setting not taken. -/
theorem load_ignores_file_of_environment :
    standard.load namedAsEnding.1 namedAsEnding.2 = .ok { load := { concurrency := 1 } } ∧
      (file "config/taskprobe.toml.toml").load namedAsEnding.1 namedAsEnding.2 =
        .ok { load := { concurrency := 3 } } := by
  constructor
  · exact eq_ok_of_toOption (by decide +kernel)
  · exact eq_ok_of_toOption (by decide +kernel)

end Loader

end ServiceProbe.Config
