import ServiceProbe.Proofs.Config.Loaders
import ServiceProbe.Proofs.Config.Values
import ServiceProbe.Proofs.Task.EndpointNames

/-!
# Texts from the environment

The value of a variable is read before anything is known about the setting that it names: as a truth value, else
as a whole number of 64 bits, else as a real number, and only else as a text. Where the setting is a text, what
was read is written out again (`Respelled`), in the one form that the number or truth value has.

* `TextSetting.held?_of_variable` — what a configuration holds for a text that a variable decides. It is the
  value itself exactly if the value is in that form already, or is neither a number nor a truth value
  (`Verbatim`). A base URL and an endpoint that can be used are never changed.
-/

namespace ServiceProbe.Config

open Number (Double)

variable {value shown : String}

/-! ### Values as texts -/

/-- The value of a variable as a text: what it is read as, written out. -/
inductive Respelled (value : String) : String → Prop where
  | truth {b : Bool} (isTruth : IsTruth value b) : Respelled value (truthWord b)
  | whole {n : Int} (noTruth : ∀ b, ¬ IsTruth value b) (isWhole : IsWhole value n) :
    Respelled value (toString n)
  | real {x : Double} (noTruth : ∀ b, ¬ IsTruth value b) (noWhole : ∀ n, ¬ IsWhole value n)
    (isReal : Double.read? value.toList = some x) : Respelled value x.positional
  | plain (noTruth : ∀ b, ¬ IsTruth value b) (noWhole : ∀ n, ¬ IsWhole value n)
    (noReal : Double.read? value.toList = none) : Respelled value value

/-- A value that is written out as it stands: whatever it is read as has this form. -/
structure Verbatim (value : String) : Prop where
  truth : ∀ b, IsTruth value b → value = truthWord b
  whole : (∀ b, ¬ IsTruth value b) → ∀ n, IsWhole value n → value = toString n
  real : (∀ b, ¬ IsTruth value b) → (∀ n, ¬ IsWhole value n) →
    ∀ x, Double.read? value.toList = some x → value = x.positional

theorem exists_asText_scalarOf (value key : String) (origin : Origin) :
    ∃ shown, Keyed.asText ⟨key, .leaf (scalarOf value) origin⟩ = .ok shown ∧ Respelled value shown := by
  have read := isReadAs_scalarOf value
  generalize scalarOf value = scalar at read
  cases read with
  | truth isTruth => exact ⟨_, rfl, .truth isTruth⟩
  | whole noTruth isWhole => exact ⟨_, rfl, .whole noTruth isWhole⟩
  | real noTruth noWhole isReal => exact ⟨_, rfl, .real noTruth noWhole isReal⟩
  | text noTruth noWhole noReal => exact ⟨_, rfl, .plain noTruth noWhole noReal⟩

theorem Respelled.eq_iff (h : Respelled value shown) : shown = value ↔ Verbatim value := by
  -- each kind keeps that those tried before it did not fit, so only its own case of `Verbatim` says something
  cases h with
  | @truth b isTruth =>
    constructor
    · intro same
      refine ⟨fun b' isTruth' => ?_, fun noTruth => absurd isTruth (noTruth b), fun noTruth =>
        absurd isTruth (noTruth b)⟩
      rw [← isTruth.unique isTruth', same]
    · exact fun verbatim => (verbatim.truth b isTruth).symm
  | @whole n noTruth isWhole =>
    constructor
    · intro same
      refine ⟨fun b isTruth => absurd isTruth (noTruth b), fun _ n' isWhole' => ?_, fun _ noWhole =>
        absurd isWhole (noWhole n)⟩
      rw [← Option.some.inj (isWhole.1.symm.trans isWhole'.1), same]
    · exact fun verbatim => (verbatim.whole noTruth n isWhole).symm
  | @real x noTruth noWhole isReal =>
    constructor
    · intro same
      refine ⟨fun b isTruth => absurd isTruth (noTruth b), fun _ n isWhole => absurd isWhole (noWhole n),
        fun _ _ x' isReal' => ?_⟩
      rw [← Option.some.inj (isReal.symm.trans isReal'), same]
    · exact fun verbatim => (verbatim.real noTruth noWhole x isReal).symm
  | plain noTruth noWhole noReal =>
    refine iff_of_true rfl ⟨fun b isTruth => absurd isTruth (noTruth b), fun _ n isWhole =>
      absurd isWhole (noWhole n), fun _ _ x isReal => ?_⟩
    cases noReal.symm.trans isReal

/-- A number or truth value that is written out has only characters of numbers and of the two words. -/
theorem Respelled.eq_of_mem (h : Respelled value shown) {c : Char} (member : c ∈ shown.toList)
    (other : ¬ Double.isPositionalChar c) (noWord : ∀ b, c ∉ (truthWord b).toList) : shown = value := by
  cases h with
  | @truth b _ => exact absurd member (noWord b)
  | @whole n _ _ =>
    -- digits, and a minus if the number is below zero
    refine absurd ?_ other
    cases n with
    | ofNat n =>
      have digit : c ∈ Nat.toDigits 10 n := Nat.toList_repr ▸ member
      rw [Double.isPositionalChar, Nat.isDigit_of_mem_toDigits (by decide) (by decide) digit, Bool.true_or]
    | negSucc n =>
      change c ∈ ("-" ++ (n + 1).repr).toList at member
      rw [String.toList_append, Nat.toList_repr] at member
      rcases List.mem_cons.1 member with rfl | digit
      · rfl
      · rw [Double.isPositionalChar, Nat.isDigit_of_mem_toDigits (by decide) (by decide) digit,
          Bool.true_or]
  | @real x _ _ _ => exact absurd (List.all_eq_true.1 x.all_positional c member) other
  | plain => rfl

/-! ### Texts that can be used -/

/-- A base URL that can be used has a colon. -/
theorem colon_mem_of_parse {text : List Char} {url : Url} (read : Url.parse text = .ok url) : ':' ∈ text := by
  obtain ⟨rest, cut⟩ := Url.exists_splitScheme? read
  by_contra none
  -- what is ignored in a URL is only left out, so no colon comes in
  have cleaned : ':' ∉ Url.clean text := by
    intro member
    have trimmed : ':' ∈ Url.trim text := List.mem_of_mem_filter member
    have kept := (List.dropWhile_sublist _).subset (List.mem_reverse.1 trimmed)
    exact none ((List.dropWhile_sublist _).subset (List.mem_reverse.1 kept))
  rw [Url.splitScheme?, Url.splitAtMark_of_not_mem cleaned] at cut
  cases cut

/-- The name of every endpoint has this letter. -/
theorem c_mem_of_parse {text : String} {endpoint : Endpoint} (read : Endpoint.parse text = .ok endpoint) :
    'c' ∈ text.toList := by
  have inName : 'c' ∈ endpoint.name.toList := by cases endpoint <;> decide
  exact Endpoint.mem_of_spells (Endpoint.parse_eq_ok_iff.1 read) inName

/-! ### What a configuration holds -/

namespace TextSetting

theorem foldName_part (setting : TextSetting) : Setting.foldName setting.part.name = setting.part.name := by
  cases setting <;> decide +kernel

theorem foldName_name (setting : TextSetting) : Setting.foldName setting.name = setting.name := by
  cases setting <;> decide +kernel

/-- **Texts from the environment.** If a variable decides a text, a configuration that is loaded holds what the
value is written out as, whatever the other layers say. -/
theorem held?_of_variable (setting : TextSetting) {loader : Loader} {environment : Environment} {files : Files}
    {config : Config} {variableName value : String}
    (decides : Decides environment setting.part.name setting.name variableName value)
    (loads : loader.load environment files = .ok config) :
    ∃ shown, setting.held? config = some shown ∧ Respelled value shown ∧ (shown = value ↔ Verbatim value) ∧
      (setting = .baseUrl ∨ setting = .endpoint → shown = value) := by
  obtain ⟨tree, decoded, there⟩ :=
    Loader.exists_tree_of_variable loads decides setting.foldName_part setting.foldName_name
  obtain ⟨shown, isShown, respelled⟩ :=
    exists_asText_scalarOf value (setting.part.keyOf setting.name) (some environmentOrigin)
  have something : scalarOf value ≠ .nothing := by
    intro nothing
    rw [nothing] at isShown
    cases isShown
  have held := held?_of_there decoded there something
  rw [isShown] at held
  have held : setting.held? config = some shown := (Except.ok.inj held).symm
  refine ⟨shown, held, respelled, respelled.eq_iff, ?_⟩
  -- what is held was validated, so it has a character that only an unchanged value has
  obtain ⟨-, ⟨url, isUrl⟩, -, -, -, endpoint, isEndpoint⟩ :=
    validate_eq_ok_iff.1 (Loader.validate_of_load loads)
  rintro (rfl | rfl)
  · obtain rfl : config.api.baseUrl = shown := Option.some.inj held
    exact respelled.eq_of_mem (colon_mem_of_parse isUrl) (by decide) (by decide)
  · obtain rfl : config.load.endpoint = shown := Option.some.inj held
    exact respelled.eq_of_mem (c_mem_of_parse isEndpoint) (by decide) (by decide)

/-- A file with a key, over which a variable puts another one. -/
def keyFiles : Files := .ofTexts fun path =>
  if path = "config/taskprobe.toml" then some "[api]\napi_key = \"secret\"\n" else none

def keyVariables : Environment :=
  [("TASKPROBE__API__API_KEY", "1e3"), ("TASKPROBE__LOGGING__LEVEL", "debug")]

/-- A key that looks like a number with an exponent is held without it. -/
theorem held?_of_variable_exponent :
    Decides keyVariables "api" "api_key" "TASKPROBE__API__API_KEY" "1e3" ∧
      Loader.standard.load keyVariables keyFiles =
        .ok { api := { apiKey := "1000" }, logging := { level := "debug" } } ∧
      Respelled "1e3" "1000" ∧ ¬ Verbatim "1e3" := by
  have decides : Decides keyVariables "api" "api_key" "TASKPROBE__API__API_KEY" "1e3" := by
    refine ⟨[], [("TASKPROBE__LOGGING__LEVEL", "debug")], "api.api_key", rfl, by decide +kernel,
      by decide +kernel, ?_⟩
    unfold Elsewhere
    decide +kernel
  have loads : Loader.standard.load keyVariables keyFiles =
      .ok { api := { apiKey := "1000" }, logging := { level := "debug" } } := by
    refine eq_ok_of_toOption ?_
    decide +kernel
  obtain ⟨shown, held, respelled, iff, -⟩ := held?_of_variable .apiKey decides loads
  obtain rfl : "1000" = shown := Option.some.inj held
  exact ⟨decides, loads, respelled, mt iff.2 (by decide)⟩

/-- Zeros at the start of a key are lost: it is a whole number, and no whole number is written with them. -/
theorem held?_ne_of_leading_zeros :
    Decides [("TASKPROBE__API__API_KEY", "007")] "api" "api_key" "TASKPROBE__API__API_KEY" "007" ∧
      ∃ config, Loader.standard.load [("TASKPROBE__API__API_KEY", "007")] (.ofTexts fun _ => none) = .ok config ∧
        held? config .apiKey ≠ some "007" := by
  refine ⟨⟨[], [], "api.api_key", rfl, by decide +kernel, by decide +kernel, nofun⟩,
    { api := { apiKey := "7" } }, ?_, by decide⟩
  refine eq_ok_of_toOption ?_
  decide +kernel

end TextSetting

end ServiceProbe.Config
