import Mathlib.Data.List.Forall2
import ServiceProbe.Proofs.Config.Sections

/-!
# From layers to a configuration

There are two ways to load a configuration (`Loader`), and both put the same kinds of layers over the built-in
values: the files that are read, in their order, and then the environment.

* `Loader.exists_layers` — a configuration that was loaded is that of the layers, put one over the other;
* `Loader.exists_tree_of_variable` — if a variable decides a setting (`Decides`), the tree that was decoded has
  the value of the variable there, whatever the files and the other variables say;
* `Loader.exists_tree_of_document` — and so it is with an entry of a file that nothing after it bears on.
-/

namespace ServiceProbe.Config

open Url (exists_of_bind_eq_ok)

variable {environment : Environment} {files : Files} {config : Config}

/-- The two ways to load a configuration. -/
inductive Loader where
  /-- From the base file and the file of the chosen environment, where they are there. -/
  | standard
  /-- From one file, which has to be there. -/
  | file (path : String)

/-- The settings of a file, from its path and its text. -/
def Files.readDocument? (files : Files) (document : String × String) : Option Layer :=
  (files.read document.1 document.2).toOption

/-- A file was read, and these are its settings. -/
abbrev Files.Reads (files : Files) (document : String × String) (layer : Layer) : Prop :=
  files.readDocument? document = some layer

theorem toOption_eq_some_iff {α ε : Type} {result : Except ε α} {value : α} :
    result.toOption = some value ↔ result = .ok value := by
  cases result <;> simp [Except.toOption]

/-- A file in TOML is read as such. -/
theorem Files.reads_toml_iff {document : String × String} (isToml : FileFormat.of? document.1 = some .toml)
    {layer : Layer} :
    files.Reads document layer ↔ Toml.read? (some (Path.plain document.1)) (unmarked document.2) = some layer := by
  rw [Files.Reads, readDocument?, toOption_eq_some_iff, read, isToml]
  dsimp only
  cases Toml.read? (some (Path.plain document.1)) (unmarked document.2) <;> simp

namespace Loader

def load (loader : Loader) (environment : Environment) (files : Files) : Except Error Config :=
  match loader with
  | standard => loadStandard environment files
  | file path => loadFromFile environment files path

/-- The files that are read, by their paths, with their texts. -/
def documents (loader : Loader) (environment : Environment) (files : Files) : List (String × String) :=
  match loader with
  | standard =>
    let chosen := (environment.lookup selectorName).getD defaultEnvironment
    (files.named? "config/taskprobe").toList ++ (files.named? s!"config/taskprobe.{chosen}").toList
  | file path => ((files.text? path).map (path, ·)).toList

end Loader

/-! ### Layers -/

/-- What was loaded was decoded and can be run. -/
theorem of_finish {tree : Setting} (h : finish tree = .ok config) :
    ofSettings tree = .ok config ∧ config.validate = .ok () := by
  rw [finish] at h
  cases decoded : ofSettings tree with
  | error fault =>
    rw [decoded] at h
    cases h
  | ok other =>
    rw [decoded] at h
    obtain ⟨_, valid, h⟩ := exists_of_bind_eq_ok h
    cases h
    exact ⟨rfl, valid⟩

theorem of_overlayFile {path text : String} {held tree : Setting}
    (h : overlayFile files path text held = .ok tree) :
    ∃ layer, files.Reads (path, text) layer ∧ tree = overlay layer held := by
  rw [overlayFile] at h
  cases isRead : files.read path text with
  | error e =>
    rw [isRead] at h
    cases h
  | ok layer =>
    rw [isRead] at h
    exact ⟨layer, toOption_eq_some_iff.2 isRead, (Except.ok.inj h).symm⟩

/-- A file that is there is a layer, and one that is not is none. -/
theorem of_overlayIfThere {stem : String} {held tree : Setting}
    (h : overlayIfThere files stem held = .ok tree) :
    ∃ layers, List.Forall₂ files.Reads (files.named? stem).toList layers ∧ tree = overlay layers.flatten held := by
  rw [overlayIfThere] at h
  cases named : files.named? stem with
  | none =>
    rw [named] at h
    exact ⟨[], .nil, (Except.ok.inj h).symm⟩
  | some document =>
    rw [named] at h
    obtain ⟨layer, isRead, rfl⟩ := of_overlayFile h
    exact ⟨[layer], .cons isRead .nil, by rw [List.flatten_cons, List.flatten_nil, List.append_nil]⟩

/-- **Layers over the built-in values.** What was loaded was read from the files and the environment. -/
theorem Loader.exists_layers {loader : Loader} (h : loader.load environment files = .ok config) :
    ∃ layers, List.Forall₂ files.Reads (loader.documents environment files) layers ∧
      finish (overlay (layers.flatten ++ environmentLayer environment) defaults) = .ok config := by
  cases loader with
  | standard =>
    -- two documents, each laid over if it is there
    obtain ⟨base, isBase, h⟩ := exists_of_bind_eq_ok h
    obtain ⟨chosen, isChosen, h⟩ := exists_of_bind_eq_ok h
    obtain ⟨first, readFirst, rfl⟩ := of_overlayIfThere isBase
    obtain ⟨second, readSecond, rfl⟩ := of_overlayIfThere isChosen
    refine ⟨first ++ second, List.rel_append readFirst readSecond, ?_⟩
    rw [List.flatten_append, overlay_append, overlay_append]
    exact h
  | file path =>
    -- one document, which has to be there
    rw [load, loadFromFile] at h
    rw [documents]
    cases there : files.text? path with
    | none =>
      rw [there] at h
      cases h
    | some text =>
      rw [there] at h
      obtain ⟨tree, isTree, h⟩ := exists_of_bind_eq_ok h
      obtain ⟨layer, isRead, rfl⟩ := of_overlayFile isTree
      refine ⟨[layer], .cons isRead .nil, ?_⟩
      rw [List.flatten_cons, List.flatten_nil, List.append_nil, overlay_append]
      exact h

/-- What was loaded can be run. -/
theorem Loader.validate_of_load {loader : Loader} (h : loader.load environment files = .ok config) :
    config.validate = .ok () := by
  obtain ⟨layers, -, finished⟩ := exists_layers h
  exact (of_finish finished).2

/-- The configurations that can be run. -/
theorem validate_eq_ok_iff {config : Config} :
    config.validate = .ok () ↔
      (Text.trim config.api.baseUrl.toList).isEmpty = false ∧
      (∃ url, Url.parse config.api.baseUrl.toList = .ok url) ∧
      config.polling.intervalMillis ≠ 0 ∧ config.polling.maxAttempts ≠ 0 ∧ config.load.workerBudget ≠ 0 ∧
      ∃ endpoint, Endpoint.parse config.load.endpoint = .ok endpoint := by
  simp only [validate]
  -- the first check that fails decides, so each case knows that those before it passed
  cases empty : (Text.trim config.api.baseUrl.toList).isEmpty with
  | true => exact iff_of_false nofun fun h => nomatch h.1
  | false =>
    cases read : Url.parse config.api.baseUrl.toList with
    | error fault => exact iff_of_false nofun fun h => nomatch h.2.1
    | ok url =>
      by_cases interval : config.polling.intervalMillis = 0
      · simp only [interval]
        exact iff_of_false nofun fun h => h.2.2.1 rfl
      by_cases attempts : config.polling.maxAttempts = 0
      · simp only [interval, attempts]
        exact iff_of_false nofun fun h => h.2.2.2.1 rfl
      by_cases budget : config.load.workerBudget = 0
      · simp only [interval, attempts, budget]
        exact iff_of_false nofun fun h => h.2.2.2.2.1 rfl
      simp only [interval, attempts, budget]
      cases Endpoint.parse config.load.endpoint with
      | error fault => exact iff_of_false nofun fun h => nomatch h.2.2.2.2.2
      | ok endpoint => exact iff_of_true rfl ⟨trivial, ⟨url, rfl⟩, interval, attempts, budget, endpoint, rfl⟩

/-! ### What decides a setting -/

/-- Nothing in a layer bears on the setting at a place. -/
def Elsewhere (part name : String) (layer : Layer) : Prop :=
  ∀ entry ∈ layer, Setting.bears part name (KeyStep.ofKey entry.1) entry.2 = false

/-- A variable decides the setting at a place: it names the setting, and no variable after it bears on it. Where two
variables name one setting, as with other capitals, it is the order of the environment that decides between them. -/
def Decides (environment : Environment) (part name variableName value : String) : Prop :=
  ∃ before after key, environment = before ++ (variableName, value) :: after ∧
    keyOf? variableName = some key ∧ KeyStep.ofKey key = [.name part, .name name] ∧
    Elsewhere part name (environmentLayer after)

theorem environmentLayer_append (first second : Environment) :
    environmentLayer (first ++ second) = environmentLayer first ++ environmentLayer second :=
  List.filterMap_append

/-- **The variable that decides.** -/
theorem Loader.exists_tree_of_variable {loader : Loader} {part name variableName value : String}
    (h : loader.load environment files = .ok config)
    (decides : Decides environment part name variableName value)
    (isPart : Setting.foldName part = part) (isName : Setting.foldName name = name) :
    ∃ tree, ofSettings tree = .ok config ∧
      tree.find? [part, name] = some (.leaf (scalarOf value) (some environmentOrigin)) := by
  obtain ⟨layers, -, finished⟩ := exists_layers h
  obtain ⟨before, after, key, rfl, isKey, isPath, elsewhere⟩ := decides
  refine ⟨_, (of_finish finished).1, ?_⟩
  -- the variables are the last layer, so only those after this one come over it
  have split : environmentLayer ((variableName, value) :: after) =
      (key, .leaf (scalarOf value) (some environmentOrigin)) :: environmentLayer after := by
    rw [environmentLayer, List.filterMap_cons_some]
    · rfl
    · change (keyOf? variableName).map _ = _
      rw [isKey]
      rfl
  rw [environmentLayer_append, split, ← List.append_assoc]
  refine find?_overlay ?_ elsewhere defaults
  rw [isPath]
  exact .direct isPart isName

/-- The layers before and after one file. -/
theorem exists_append_of_forall₂ {earlier later : List (String × String)} {document : String × String}
    {layers : List Layer}
    (h : List.Forall₂ files.Reads (earlier ++ document :: later) layers) :
    ∃ before layer after, layers = before ++ layer :: after ∧ files.Reads document layer ∧
      List.Forall₂ files.Reads later after := by
  induction earlier generalizing layers with
  | nil =>
    obtain ⟨layer, after, isRead, more, rfl⟩ := List.forall₂_cons_left_iff.1 h
    exact ⟨[], layer, after, rfl, isRead, more⟩
  | cons first earlier ih =>
    obtain ⟨other, rest, -, more, rfl⟩ := List.forall₂_cons_left_iff.1 h
    obtain ⟨before, layer, after, rfl, isRead, more⟩ := ih more
    exact ⟨other :: before, layer, after, rfl, isRead, more⟩

theorem exists_mem_of_forall₂ {documents : List (String × String)} {layers : List Layer}
    (h : List.Forall₂ files.Reads documents layers) {layer : Layer} (member : layer ∈ layers) :
    ∃ document ∈ documents, files.Reads document layer := by
  induction h with
  | nil => cases member
  | cons first rest ih =>
    rcases List.mem_cons.1 member with rfl | member
    · exact ⟨_, List.mem_cons_self, first⟩
    · obtain ⟨document, among, read⟩ := ih member
      exact ⟨document, List.mem_cons_of_mem _ among, read⟩

/-- A file decides the setting at a place: neither a file after it nor a variable bears on it. -/
def Loader.DecidesBy (loader : Loader) (environment : Environment) (files : Files) (part name : String)
    (document : String × String) : Prop :=
  ∃ earlier later, loader.documents environment files = earlier ++ document :: later ∧
    (∀ other ∈ later, ∀ layer, files.Reads other layer → Elsewhere part name layer) ∧
    Elsewhere part name (environmentLayer environment)

/-- **The file that decides.** It was read, and its last entry that bears on the setting sets it. -/
theorem Loader.exists_tree_of_document {loader : Loader} {part name : String} {document : String × String}
    (h : loader.load environment files = .ok config)
    (decides : loader.DecidesBy environment files part name document) :
    ∃ layer, files.Reads document layer ∧
      ∀ before after entry scalar origin, layer = before ++ entry :: after →
        Setting.Sets part name (.leaf scalar origin) (KeyStep.ofKey entry.1) entry.2 →
        Elsewhere part name after →
        ∃ tree, ofSettings tree = .ok config ∧ tree.find? [part, name] = some (.leaf scalar origin) := by
  obtain ⟨layers, read, finished⟩ := exists_layers h
  obtain ⟨earlier, later, isDocument, laterElsewhere, environmentElsewhere⟩ := decides
  rw [isDocument] at read
  obtain ⟨below, layer, above, rfl, isRead, readLater⟩ := exists_append_of_forall₂ read
  refine ⟨layer, isRead, ?_⟩
  rintro before after entry scalar origin rfl sets elsewhere
  refine ⟨_, (of_finish finished).1, ?_⟩
  have split : (below ++ (before ++ entry :: after) :: above).flatten ++ environmentLayer environment =
      (below.flatten ++ before) ++ entry :: (after ++ (above.flatten ++ environmentLayer environment)) := by
    simp only [List.flatten_append, List.flatten_cons, List.append_assoc, List.cons_append]
  rw [split]
  refine find?_overlay sets ?_ defaults
  -- behind the entry come the rest of its file, the files after it and the variables
  intro other member
  rcases List.mem_append.1 member with member | member
  · exact elsewhere other member
  rcases List.mem_append.1 member with member | member
  · obtain ⟨one, isOne, inOne⟩ := List.mem_flatten.1 member
    obtain ⟨file, isFile, fileRead⟩ := exists_mem_of_forall₂ readLater isOne
    exact laterElsewhere file isFile one fileRead other inOne
  · exact environmentElsewhere other member

end ServiceProbe.Config
