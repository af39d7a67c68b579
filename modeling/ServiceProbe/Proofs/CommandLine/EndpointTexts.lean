import ServiceProbe.Proofs.CommandLine.EndpointOption
import ServiceProbe.Proofs.Config.Readiness

/-!
# The places where an endpoint is named

A configuration names an endpoint, and so does the command line of a load test. The text is read in three places: where
a configuration is validated, where a load test is planned, and as the value of an option. None of them takes a text
that another one refuses.

* `Config.validate_naming_iff`, `LoadPlan.ofConfig_naming_iff` — which texts a configuration and a plan take, as
  `Arguments.parse_takesNames` says of the command line;
* `Endpoint.parse_exactly` — the texts that are read as an endpoint, everywhere.
-/

namespace ServiceProbe

/-! ### Configurations -/

/-- The configuration with a text for its endpoint. -/
def Config.naming (config : Config) (text : String) : Config :=
  { config with load := { config.load with endpoint := text } }

/-- A text is valid for an endpoint where the name of any endpoint is. -/
theorem Config.validate_naming_iff (config : Config) (text : String) (other : Endpoint) :
    (config.naming text).validate = .ok () ↔
      (config.naming other.name).validate = .ok () ∧ ∃ endpoint : Endpoint, endpoint.Spells text.toList := by
  have named : Endpoint.parse other.name = .ok other := Endpoint.parse_eq_ok_iff.2 other.spells_name
  rw [Config.validate_eq_ok_iff, Config.validate_eq_ok_iff]
  simp only [naming, named, Endpoint.parse_eq_ok_iff]
  constructor
  · rintro ⟨blank, url, interval, attempts, budget, spelled⟩
    exact ⟨⟨blank, url, interval, attempts, budget, other, rfl⟩, spelled⟩
  · rintro ⟨⟨blank, url, interval, attempts, budget, -⟩, spelled⟩
    exact ⟨blank, url, interval, attempts, budget, spelled⟩

/-- A load test has the endpoint that is named. -/
theorem LoadPlan.ofConfig_naming_iff (config : Config) (text : String) (endpoint : Endpoint) :
    (∃ plan, ofConfig (config.naming text) = .ok plan ∧ plan.endpoint = endpoint) ↔
      endpoint.Spells text.toList := by
  rw [← Endpoint.parse_eq_ok_iff, ofConfig]
  change (∃ plan, (Endpoint.parse text >>= fun _ => _) = .ok plan ∧ _) ↔ _
  cases Endpoint.parse text with
  | error fault =>
    constructor
    · rintro ⟨plan, ⟨⟩, -⟩
    · rintro ⟨⟩
  | ok named =>
    constructor
    · rintro ⟨plan, ⟨⟩, rfl⟩
      rfl
    · rintro ⟨⟩
      exact ⟨_, rfl, rfl⟩

/-- With nothing behind it, the endpoint is all that the line gives. -/
theorem Arguments.parse_load_name (short attached : Bool) (endpoint : Endpoint) :
    parse ("load" :: givingEndpoint short attached endpoint.name) =
      .ok { command := .load { endpoint := some endpoint } } := by
  refine Config.eq_ok_of_toOption ?_
  cases short <;> cases attached <;> cases endpoint <;> decide +kernel

/-! ### All of it -/

namespace Endpoint

/-- The text is taken for an endpoint in all places or in none: where a configuration is validated, where a load test
is planned, and on the command line, behind either name of its option, in the next argument or behind an equals sign,
whatever stands around it. -/
structure TakenAlike (text : String) : Prop where
  configured : ∀ (config : Config) (other : Endpoint), (config.naming text).validate = .ok () ↔
    (config.naming other.name).validate = .ok () ∧ ∃ endpoint : Endpoint, endpoint.Spells text.toList
  planned : ∀ (config : Config) (endpoint : Endpoint),
    (∃ plan, LoadPlan.ofConfig (config.naming text) = .ok plan ∧ plan.endpoint = endpoint) ↔
      endpoint.Spells text.toList
  asked : ∀ (short attached : Bool) (before more : List String) (arguments : Arguments),
    Arguments.parse (before ++ (Arguments.givingEndpoint short attached text ++ more)) = .ok arguments ↔
      ∃ endpoint : Endpoint, endpoint.Spells text.toList ∧
        Arguments.parse (before ++ (Arguments.givingEndpoint short attached endpoint.name ++ more)) = .ok arguments

theorem takenAlike (text : String) : TakenAlike text where
  configured config other := config.validate_naming_iff text other
  planned config endpoint := LoadPlan.ofConfig_naming_iff config text endpoint
  asked short attached before more := Arguments.parse_takesNames short attached text before more

/-- **Names of endpoints.** A text is read as an endpoint exactly if it is its short name behind copies of `/v1/` and
then slashes, with blanks around it, so that no text is read as two. The short name and the path are such texts. Every
other text is refused, and the error tells what is left of it without blanks, copies and slashes. Configurations, load
tests and the command line take the same texts. -/
theorem parse_exactly (text : String) :
    (∀ endpoint, parse text = .ok endpoint ↔ endpoint.Spells text.toList) ∧
    (∀ endpoint endpoint' : Endpoint, endpoint.Spells text.toList → endpoint'.Spells text.toList →
      endpoint = endpoint') ∧
    (∀ endpoint : Endpoint, parse endpoint.name = .ok endpoint ∧ parse endpoint.path = .ok endpoint) ∧
    (∀ fault, parse text = .error fault ↔
      (∀ endpoint : Endpoint, ¬ endpoint.Spells text.toList) ∧
      ∃ rest, Leaves rest text.toList ∧ fault = .config (.unknownEndpoint (String.ofList rest))) ∧
    (∀ name, (Error.config (.unknownEndpoint name)).message =
      "Configuration error: Unknown task endpoint: " ++ name) ∧
    TakenAlike text ∧
    ∀ (short attached : Bool) (endpoint : Endpoint),
      Arguments.parse ("load" :: Arguments.givingEndpoint short attached endpoint.name) =
        .ok { command := .load { endpoint := some endpoint } } := by
  refine ⟨fun _ => parse_eq_ok_iff, fun _ _ => eq_of_spells, fun endpoint => ⟨?_, ?_⟩, fun _ => parse_eq_error_iff,
    fun name => ?_, takenAlike text, Arguments.parse_load_name⟩
  · exact parse_eq_ok_iff.2 endpoint.spells_name
  · exact parse_eq_ok_iff.2 endpoint.spells_path
  · rfl

end Endpoint

end ServiceProbe
