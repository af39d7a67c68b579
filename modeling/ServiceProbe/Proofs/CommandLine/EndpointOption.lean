import ServiceProbe.CommandLine.Arguments
import ServiceProbe.Proofs.Task.EndpointNames

/-!
# The endpoint on the command line

The option for the endpoint of a load test has a long name and a short one, its text stands in the same argument or in
the next, and there may be anything before and behind it. What is before cannot swallow the option, since no value of
another option looks like it (`readOption_append`). So the line is read up to the option whatever its text is, and a
text is taken exactly if the name of the endpoint that it spells is, to the same end.

* `Arguments.TakesNames` — what is said of a way of reading a text, with the ways in which such readings are put
  together;
* `Arguments.readOptions_takesNames`, `Arguments.readCommand_takesNames` — options and commands are read so;
* `Arguments.parse_takesNames` — a whole line is.
-/

namespace ServiceProbe

namespace Arguments

variable {α β : Type}

/-! ### Readings of a text -/

/-- The reading takes a text exactly if the text spells an endpoint whose name it takes, and to the same result. -/
def TakesNames (read : String → Except Stop α) (text : String) : Prop :=
  ∀ result, read text = .ok result ↔
    ∃ endpoint : Endpoint, endpoint.Spells text.toList ∧ read endpoint.name = .ok result

namespace TakesNames

variable {read : String → Except Stop α} {text : String}

/-- What is refused whatever the text is. -/
theorem refused (refuses : ∀ text result, read text ≠ .ok result) : TakesNames read text := by
  intro result
  constructor
  · intro taken
    exact absurd taken (refuses text result)
  · rintro ⟨endpoint, -, taken⟩
    exact absurd taken (refuses endpoint.name result)

theorem endpointOf : TakesNames endpointOf text := by
  have reads_iff (text : String) (endpoint : Endpoint) :
      Arguments.endpointOf text = .ok endpoint ↔ endpoint.Spells text.toList := by
    rw [← Endpoint.parse_eq_ok_iff, Arguments.endpointOf]
    cases Endpoint.parse text with
    | ok named => exact ⟨fun same => by cases same; rfl, fun same => by cases same; rfl⟩
    | error fault => exact ⟨nofun, nofun⟩
  -- a text that spells the endpoint is taken as the name of that endpoint is
  intro endpoint
  simp only [reads_iff]
  constructor
  · intro spelled
    exact ⟨endpoint, spelled, endpoint.spells_name⟩
  · rintro ⟨other, spelled, named⟩
    rwa [Endpoint.eq_of_spells named other.spells_name]

/-- What follows the reading does not see the text. -/
theorem bind (takes : TakesNames read text) (goOn : α → Except Stop β) :
    TakesNames (fun text => read text >>= goOn) text := by
  have taken_iff (text : String) (result : β) :
      (read text >>= goOn) = .ok result ↔ ∃ value, read text = .ok value ∧ goOn value = .ok result := by
    cases read text with
    | error stop => exact ⟨nofun, nofun⟩
    | ok value => exact ⟨fun goes => ⟨value, rfl, goes⟩, fun ⟨_, same, goes⟩ => by cases same; exact goes⟩
  intro result
  simp only [taken_iff]
  constructor
  · rintro ⟨value, taken, goes⟩
    obtain ⟨endpoint, spelled, named⟩ := (takes value).1 taken
    exact ⟨endpoint, spelled, value, named, goes⟩
  · rintro ⟨endpoint, spelled, value, named, goes⟩
    exact ⟨value, (takes value).2 ⟨endpoint, spelled, named⟩, goes⟩

theorem map (takes : TakesNames read text) (f : α → β) : TakesNames (fun text => (read text).map f) text := by
  have reads (result : Except Stop α) : result.map f = result >>= fun value => .ok (f value) := by
    cases result <;> rfl
  simp only [reads]
  exact takes.bind _

/-- What comes before the reading does not see the text either. -/
theorem behind {read : β → String → Except Stop α} (first : Except Stop β)
    (takes : ∀ value, TakesNames (read value) text) :
    TakesNames (fun text => first >>= fun value => read value text) text := by
  cases first with
  | error stop => exact refused fun _ _ taken => by cases taken
  | ok value => exact takes value

/-- In an argument of its own, a text must not look like an option. No text that spells an endpoint does. -/
theorem guarded (takes : TakesNames read text) :
    TakesNames (fun text => if isValue text then read text else .error .misuse) text := by
  have isValue_of_spells {endpoint : Endpoint} {text : String} (spelled : endpoint.Spells text.toList) :
      isValue text = true := by
    rw [isValue]
    split
    · rfl
    · next rest isText => exact absurd (isText ▸ List.mem_cons_self) (Endpoint.dash_not_mem_of_spells spelled)
    · rfl
  -- so the guard lets the text and the name pass alike
  intro result
  constructor
  · intro taken
    dsimp only at taken
    split at taken
    · obtain ⟨endpoint, spelled, named⟩ := (takes result).1 taken
      exact ⟨endpoint, spelled, (if_pos (isValue_of_spells endpoint.spells_name)).trans named⟩
    · cases taken
  · rintro ⟨endpoint, spelled, named⟩
    dsimp only at named ⊢
    rw [if_pos (isValue_of_spells endpoint.spells_name)] at named
    rw [if_pos (isValue_of_spells spelled)]
    exact (takes result).2 ⟨endpoint, spelled, named⟩

end TakesNames

/-! ### Lines in two parts -/

/-- The first of the arguments cannot be the value of an option. -/
def OpensWithOption (arguments : List String) : Prop :=
  ∃ argument rest, arguments = argument :: rest ∧ isValue argument = false

section append

variable {tail : List String} (opens : OpensWithOption tail)

include opens

theorem valueOf_append (attached : Option String) (before : List String) :
    valueOf attached (before ++ tail) =
      (valueOf attached before).map fun value => (value.1, value.2 ++ tail) := by
  obtain ⟨argument, rest, rfl, isOption⟩ := opens
  cases attached with
  | some value => rfl
  | none =>
    -- the value is the next argument; it is not among the arguments behind, which open with an option
    cases before with
    | nil =>
      change (if isValue argument then _ else _) = _
      rw [isOption]
      rfl
    | cons value before =>
      change (if isValue value then _ else _) = Except.map _ (if isValue value then _ else _)
      split <;> rfl

theorem takeValue_append (set : String → α → Except Stop α) (attached : Option String) (held : α)
    (before : List String) :
    takeValue set attached held (before ++ tail) =
      (takeValue set attached held before).map fun taken => (taken.1, taken.2 ++ tail) := by
  rw [takeValue, takeValue, valueOf_append opens]
  cases valueOf attached before with
  | error stop => rfl
  | ok value =>
    cases attached with
    | none => rfl
    | some text =>
      change (set value.1 held >>= _) = Except.map _ (set value.1 held >>= _)
      cases set value.1 held <;> rfl

theorem readShort_append (specs : List (OptionSpec α)) (held : α) (before : List String) (names : List Char) :
    readShort specs held (before ++ tail) names =
      (readShort specs held before names).map fun taken => (taken.1, taken.2 ++ tail) := by
  -- a flag may change what is held for the names behind it
  induction names generalizing held with
  | nil => rfl
  | cons name behind ih =>
    rw [readShort, readShort]
    split
    · next set _ =>
      cases set held with
      | error stop => rfl
      | ok held => exact ih held
    · exact takeValue_append opens _ _ held before
    · rfl

/-- An option is read from the arguments before another option as it is from them alone. -/
theorem readOption_append (specs : List (OptionSpec α)) (token : Token) (held : α) (before : List String) :
    readOption specs token held (before ++ tail) =
      (readOption specs token held before).map fun taken => (taken.1, taken.2 ++ tail) := by
  -- only a value can be in the next argument, so only options with one look there
  cases token with
  | dashes => rfl
  | word text => rfl
  | short name behind => exact readShort_append opens specs held before (name :: behind)
  | long name attached =>
    rw [readOption, readOption]
    split
    · next set _ =>
      cases attached with
      | some value => rfl
      | none =>
        change (set held >>= _) = Except.map _ (set held >>= _)
        cases set held <;> rfl
    · exact takeValue_append opens _ attached held before
    · rfl

end append

/-! ### The option for the endpoint -/

/-- The option for the endpoint by one of its names, perhaps with a text behind an equals sign. -/
def endpointArgument (short : Bool) (attached : Option String) : String :=
  (if short then "-e" else "--endpoint") ++ attached.elim "" ("=" ++ ·)

/-- The arguments that give a load test its endpoint: the option by one of its names, and its text in the same argument
or in the next. -/
def givingEndpoint (short attached : Bool) (text : String) : List String :=
  if attached then [endpointArgument short (some text)] else [endpointArgument short none, text]

theorem length_givingEndpoint (short attached : Bool) (text : String) :
    (givingEndpoint short attached text).length = if attached then 1 else 2 := by
  cases attached <;> rfl

/-- The form of the option for the endpoint. -/
def endpointToken (short : Bool) (attached : Option String) : Token :=
  if short then .short 'e' (attached.elim [] fun text => '=' :: text.toList) else .long "endpoint" attached

theorem token_endpointArgument (short : Bool) (attached : Option String) :
    Token.of (endpointArgument short attached) = endpointToken short attached := by
  cases attached with
  | none => cases short <;> decide +kernel
  | some text =>
    cases short with
    | true =>
      -- a short option is cut off behind its letter, a long one at the sign
      have characters : (endpointArgument true (some text)).toList = '-' :: 'e' :: '=' :: text.toList := by
        simp [endpointArgument]
      rw [Token.of, characters]
      rfl
    | false =>
      have characters : (endpointArgument false (some text)).toList =
          '-' :: '-' :: 'e' :: (['n', 'd', 'p', 'o', 'i', 'n', 't'] ++ '=' :: text.toList) := by
        simp [endpointArgument]
      rw [Token.of, characters]
      simp [endpointToken]

theorem opensWithOption_givingEndpoint (short attached : Bool) (text : String) (more : List String) :
    OpensWithOption (givingEndpoint short attached text ++ more) := by
  have isOption (attached : Option String) : isValue (endpointArgument short attached) = false := by
    have characters : ∃ c rest, (endpointArgument short attached).toList = '-' :: c :: rest := by
      cases short <;> exact ⟨_, _, String.toList_append⟩
    obtain ⟨c, rest, characters⟩ := characters
    rw [isValue, characters]
    rfl
  cases attached with
  | true => exact ⟨_, _, rfl, isOption (some text)⟩
  | false => exact ⟨_, _, rfl, isOption none⟩

/-- An option of a load test: its text is taken. -/
theorem readOption_loadOptions (short : Bool) (attached : Option String) (held : LoadOptions) (rest : List String) :
    readOption loadOptions (endpointToken short attached) held rest = takeValue setEndpoint attached held rest := by
  cases short with
  | false => rfl
  | true =>
    cases attached with
    | none => rfl
    | some text =>
      have read : attachedValue ('=' :: text.toList) = some text := congrArg some String.ofList_toList
      change takeValue setEndpoint (attachedValue ('=' :: text.toList)) held rest = _
      rw [read]

/-- Options among which there is none for an endpoint. -/
def LacksEndpoint (specs : List (OptionSpec α)) : Prop :=
  specs.find? (·.long = "endpoint") = none ∧ specs.find? (·.short = some 'e') = none

theorem LacksEndpoint.readOption_eq {specs : List (OptionSpec α)} (lacks : LacksEndpoint specs) (short : Bool)
    (attached : Option String) (held : α) (rest : List String) :
    readOption specs (endpointToken short attached) held rest = .error .misuse := by
  cases short with
  | false =>
    change readOption specs (.long "endpoint" attached) held rest = _
    rw [readOption, lacks.1]
  | true =>
    change readShort specs held rest ('e' :: _) = _
    rw [readShort, lacks.2]

/-! ### Options of a command -/

section options

variable {specs : List (OptionSpec α)}

/-- An argument other than two dashes is an option, and the options behind it are read with what it has come to. -/
theorem readOptions_cons (fuel : Nat) (held : α) {argument : String} (notDashes : Token.of argument ≠ .dashes)
    (rest : List String) :
    readOptions specs (fuel + 1) held (argument :: rest) =
      readOption specs (Token.of argument) held rest >>= fun taken =>
        taken.1 >>= fun held => readOptions specs fuel held taken.2 := by
  rw [readOptions]
  split
  · next isDashes => exact absurd isDashes notDashes
  · rfl

/-- Where a text is taken at the start of the options, it is taken behind any others. -/
theorem readOptions_takesNames {text : String} {given : String → List String}
    (opens : ∀ text, OpensWithOption (given text))
    (atStart : ∀ fuel held, TakesNames (fun text => readOptions specs fuel held (given text)) text)
    (fuel : Nat) (held : α) (before : List String) :
    TakesNames (fun text => readOptions specs fuel held (before ++ given text)) text := by
  -- one argument takes fuel, but an option with its value may take two arguments
  induction fuel generalizing held before with
  | zero =>
    cases before with
    | nil => exact atStart 0 held
    | cons argument before => exact .refused fun _ _ taken => by cases taken
  | succ fuel ih =>
    cases before with
    | nil => exact atStart (fuel + 1) held
    | cons argument before =>
      by_cases isDashes : Token.of argument = .dashes
      · -- nothing may follow two dashes, but the option does
        refine .refused fun text result taken => ?_
        obtain ⟨option, rest, opened, -⟩ := opens text
        rw [List.cons_append, readOptions, isDashes, opened] at taken
        cases before <;> cases taken
      · have reads (text : String) :
            readOptions specs (fuel + 1) held (argument :: before ++ given text) =
              readOption specs (Token.of argument) held before >>= fun taken =>
                taken.1 >>= fun held => readOptions specs fuel held (taken.2 ++ given text) := by
          rw [List.cons_append, readOptions_cons fuel held isDashes, readOption_append (opens text)]
          cases readOption specs (Token.of argument) held before <;> rfl
        simp only [reads]
        exact .behind _ fun taken => .behind _ fun held => ih held taken.2

variable (short attached : Bool) (text : String) (more : List String)

theorem readOptions_givingEndpoint (fuel : Nat) (held : α) :
    readOptions specs (fuel + 1) held (givingEndpoint short attached text ++ more) =
      readOption specs (endpointToken short (if attached then some text else none)) held
          (if attached then more else text :: more) >>= fun taken =>
        taken.1 >>= fun held => readOptions specs fuel held taken.2 := by
  have notDashes (value : Option String) : Token.of (endpointArgument short value) ≠ .dashes := by
    rw [token_endpointArgument]
    cases short <;> nofun
  cases attached with
  | true => exact (readOptions_cons fuel held (notDashes _) more).trans (by rw [token_endpointArgument]; rfl)
  | false =>
    exact (readOptions_cons fuel held (notDashes _) (text :: more)).trans (by rw [token_endpointArgument]; rfl)

/-- A load test takes the text, in the argument of the option or in the next. -/
theorem loadOptions_takesNames (fuel : Nat) (held : LoadOptions) :
    TakesNames (fun text => readOptions loadOptions fuel held (givingEndpoint short attached text ++ more)) text := by
  have sets : TakesNames (fun text => setEndpoint text held) text := TakesNames.endpointOf.bind _
  cases fuel with
  | zero => exact .refused fun _ _ taken => by cases attached <;> cases taken
  | succ fuel =>
    simp only [readOptions_givingEndpoint, readOption_loadOptions]
    cases attached with
    | true =>
      have taken : TakesNames (fun text => takeValue setEndpoint (some text) held more) text :=
        sets.bind fun held => (.ok (.ok held, more) : Except Stop (Taken LoadOptions))
      exact taken.bind _
    | false =>
      -- the text is taken up behind its guard, and what it comes to is looked at then
      have reads (text : String) :
          (takeValue setEndpoint none held (text :: more) >>= fun taken =>
              taken.1 >>= fun held => readOptions loadOptions fuel held taken.2) =
            if isValue text then setEndpoint text held >>= fun held => readOptions loadOptions fuel held more
            else .error .misuse := by
        change (Except.bind (Except.bind (if isValue text then _ else _) _) _) = _
        split <;> rfl
      simp only [Bool.false_eq_true, if_false, reads]
      exact (sets.bind _).guarded

/-- Options without one for an endpoint refuse it. -/
theorem LacksEndpoint.takesNames (lacks : LacksEndpoint specs) (fuel : Nat) (held : α) :
    TakesNames (fun text => readOptions specs fuel held (givingEndpoint short attached text ++ more)) text := by
  refine .refused fun text result taken => ?_
  cases fuel with
  | zero => cases attached <;> cases taken
  | succ fuel =>
    rw [readOptions_givingEndpoint, lacks.readOption_eq] at taken
    cases taken

end options

/-! ### Commands and lines -/

section lines

variable (short attached : Bool) (text : String) (before more : List String)

/-- How many arguments there are does not depend on the text. -/
theorem length_around_givingEndpoint (text' : String) :
    (before ++ (givingEndpoint short attached text ++ more)).length =
      (before ++ (givingEndpoint short attached text' ++ more)).length := by
  simp only [List.length_append, length_givingEndpoint]

theorem allOptions_takesNames {specs : List (OptionSpec α)} (initial : α)
    (atStart : ∀ fuel held,
      TakesNames (fun text => readOptions specs fuel held (givingEndpoint short attached text ++ more)) text) :
    TakesNames (fun text => allOptions specs initial (before ++ (givingEndpoint short attached text ++ more)))
      text := by
  have fuel (text' : String) := length_around_givingEndpoint short attached text' before more ""
  simp only [allOptions, fuel]
  exact readOptions_takesNames (fun text => opensWithOption_givingEndpoint short attached text more) atStart _ initial
    before

/-- Help on a command is no command. -/
theorem helpOn_ne_ok (names : List String) (command : Command) : helpOn names ≠ .ok command := by
  intro read
  unfold helpOn at read
  split at read <;> cases read

/-- Of the commands a load test takes the text, and no other has the option. -/
theorem readCommand_takesNames (name : String) :
    TakesNames (fun text => readCommand name (before ++ (givingEndpoint short attached text ++ more))) text := by
  have refuses {α : Type} {specs : List (OptionSpec α)} (lacks : LacksEndpoint specs) (initial : α) :=
    allOptions_takesNames short attached text before more initial (lacks.takesNames short attached text more)
  -- only the command for a load test knows the option; the others refuse it however it is spelled
  unfold readCommand
  split
  · exact TakesNames.map (refuses ⟨rfl, rfl⟩ ()) _
  split
  · exact TakesNames.map (refuses ⟨rfl, rfl⟩ []) _
  split
  · exact (allOptions_takesNames short attached text before more {}
      (loadOptions_takesNames short attached text more)).map _
  split
  · exact .refused fun text => helpOn_ne_ok _
  · exact .refused fun _ _ taken => by cases taken

/-- Before the command an argument is an option of the whole program. -/
theorem parseFrom_cons (fuel : Nat) (held : Except Stop General) {argument : String}
    (notWord : ∀ name, Token.of argument ≠ .word name) (rest : List String) :
    parseFrom (fuel + 1) held (argument :: rest) =
      held >>= fun held => readOption generalOptions (Token.of argument) held rest >>= fun taken =>
        parseFrom fuel taken.1 taken.2 := by
  rw [parseFrom]
  split
  · next name isWord => exact absurd isWord (notWord name)
  · rfl

theorem parseFrom_takesNames (fuel : Nat) (held : Except Stop General) :
    TakesNames (fun text => parseFrom fuel held (before ++ (givingEndpoint short attached text ++ more))) text := by
  induction fuel generalizing held before with
  | zero => exact .refused fun _ _ taken => by cases before <;> cases attached <;> cases taken
  | succ fuel ih =>
    cases before with
    | nil =>
      -- the whole program has no such option
      refine .refused fun text result taken => ?_
      have lacks : LacksEndpoint generalOptions := ⟨rfl, rfl⟩
      have refuses (value : Option String) (rest : List String) :
          parseFrom (fuel + 1) held (endpointArgument short value :: rest) ≠ .ok result := by
        have token := token_endpointArgument short value
        rw [parseFrom_cons fuel held (fun name isWord => by rw [token] at isWord; cases short <;> cases isWord), token]
        simp only [lacks.readOption_eq]
        cases held <;> nofun
      cases attached with
      | true => exact refuses _ _ taken
      | false => exact refuses _ _ taken
    | cons argument before =>
      by_cases isWord : ∃ name, Token.of argument = .word name
      · -- the rest of the line is the command's; what is held does not see it
        obtain ⟨name, isWord⟩ := isWord
        have reads (rest : List String) : parseFrom (fuel + 1) held (argument :: rest) =
            readCommand name rest >>= fun command => held >>= fun general =>
              .ok
                { config := general.config
                  baseUrl := general.baseUrl
                  skipHealth := general.skipHealth.isSome
                  command } := by
          rw [parseFrom, isWord]
          rfl
        simp only [List.cons_append, reads]
        exact (readCommand_takesNames short attached text before more name).bind _
      · -- an option of the whole program, which leaves the line shorter
        have reads (text : String) :
            parseFrom (fuel + 1) held (argument :: before ++ (givingEndpoint short attached text ++ more)) =
              held >>= fun held => readOption generalOptions (Token.of argument) held before >>= fun taken =>
                parseFrom fuel taken.1 (taken.2 ++ (givingEndpoint short attached text ++ more)) := by
          rw [List.cons_append, parseFrom_cons fuel held (not_exists.1 isWord)]
          simp only [readOption_append (opensWithOption_givingEndpoint short attached text more)]
          cases held with
          | error stop => rfl
          | ok held =>
            change (Except.map _ (readOption _ _ held before) >>= _) = (readOption _ _ held before >>= _)
            cases readOption generalOptions (Token.of argument) held before <;> rfl
        simp only [reads]
        exact .behind _ fun held => .behind _ fun taken => ih taken.2 taken.1

/-- **The endpoint anywhere on the line.** Whatever is before the option and behind it, a text is taken for the endpoint
exactly if the name is that the text spells, and the line means the same. -/
theorem parse_takesNames :
    TakesNames (fun text => parse (before ++ (givingEndpoint short attached text ++ more))) text := by
  have fuel (text' : String) := length_around_givingEndpoint short attached text' before more ""
  simp only [parse, fuel]
  exact parseFrom_takesNames short attached text before more _ _

end lines

end Arguments

end ServiceProbe
