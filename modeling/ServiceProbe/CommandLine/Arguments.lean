import ServiceProbe.Number.Reading
import ServiceProbe.Task.Endpoint

/-!
# Arguments

The arguments are read from left to right: options of the whole program, the name of a command, options of
that command. An option may be given once, unless it collects its values. Its value stands behind an equals
sign, directly behind a short name, or in the next argument, which must not look like an option then. Short
names without values may share a dash. Two dashes alone end the options, and nothing may follow them.
`Arguments.parse` reads the whole line or says how the program stops instead.
-/

namespace ServiceProbe

/-- What a load test takes from the command line instead of the configuration. -/
structure LoadOptions where
  endpoint : Option Endpoint := none
  count : Option Nat := none
  workers : Option Nat := none
  url : Option String := none
deriving DecidableEq

/-- What is to be done. -/
inductive Command where
  | health
  /-- Runs scenarios; fragments of their names choose among them. -/
  | scenarios (only : List String)
  | load (options : LoadOptions)
deriving DecidableEq

/-- A command line. -/
structure Arguments where
  config : Option String := none
  baseUrl : Option String := none
  skipHealth : Bool := false
  command : Command
deriving DecidableEq

/-- How the program stops at its arguments. -/
inductive Stop where
  /-- They are wrong. -/
  | misuse
  /-- They ask for a text. -/
  | shown (text : String)
deriving DecidableEq

namespace Arguments

/-! ### Single arguments -/

/-- An argument by its form. -/
inductive Token where
  /-- Two dashes, a name, and perhaps a value behind an equals sign. -/
  | long (name : String) (value : Option String)
  /-- A dash, a character, and what is written behind it. -/
  | short (name : Char) (behind : List Char)
  /-- Two dashes alone. -/
  | dashes
  | word (text : String)
deriving DecidableEq

namespace Token

def of (argument : String) : Token :=
  match argument.toList with
  | '-' :: '-' :: c :: rest =>
    let body := c :: rest
    -- the first equals sign ends the name; those behind it belong to the value
    let name := body.takeWhile (· ≠ '=')
    long (String.ofList name)
      (match body.drop name.length with
        | _ :: value => some (String.ofList value)
        | [] => none)
  | ['-', '-'] => dashes
  | '-' :: name :: behind => short name behind
  | _ => word argument

end Token

/-- An argument that may be the value of the option before it. -/
def isValue (argument : String) : Bool :=
  match argument.toList with
  | ['-'] => true
  | '-' :: _ => false
  | _ => true

/-- The value of an option: the attached one, or the next argument. -/
def valueOf (attached : Option String) (rest : List String) : Except Stop (String × List String) :=
  match attached, rest with
  | some value, rest => .ok (value, rest)
  | none, value :: rest => if isValue value then .ok (value, rest) else .error .misuse
  | none, [] => .error .misuse

/-- What is written behind a short name, without an equals sign before it. -/
def attachedValue : List Char → Option String
  | [] => none
  | '=' :: value => some (String.ofList value)
  | value => some (String.ofList value)

/-! ### Options -/

/-- How an option changes what is read so far. -/
inductive Effect (α : Type) where
  | flag (set : α → Except Stop α)
  | value (set : String → α → Except Stop α)

/-- An option with its names. -/
structure OptionSpec (α : Type) where
  long : String
  short : Option Char := none
  effect : Effect α

/-- Sets a field that has not been set before. -/
def once {α β : Type} (field : α → Option β) (set : β → α → α) (value : β) (held : α) :
    Except Stop α :=
  if (field held).isSome then .error .misuse else .ok (set value held)

/-- What an option has come to: what is read so far, and the arguments that are left. A value in an argument
of its own is taken up late, so that it may turn out wrong after what follows has been read. -/
abbrev Taken (α : Type) := Except Stop α × List String

/-- Takes the value of an option, and takes it up at once if it is attached. -/
def takeValue {α : Type} (set : String → α → Except Stop α) (attached : Option String) (held : α)
    (rest : List String) : Except Stop (Taken α) := do
  let (value, left) ← valueOf attached rest
  match attached with
  | some _ => return (.ok (← set value held), left)
  | none => return (set value held, left)

/-- The options that share a dash, from the given name on. What stands behind the name of an option with a
value is the value. -/
def readShort {α : Type} (specs : List (OptionSpec α)) (held : α) (rest : List String) :
    List Char → Except Stop (Taken α)
  | [] => .ok (.ok held, rest)
  | name :: behind =>
    match specs.find? (·.short = some name) with
    | some ⟨_, _, .flag set⟩ => do readShort specs (← set held) rest behind
    | some ⟨_, _, .value set⟩ => takeValue set (attachedValue behind) held rest
    | none => .error .misuse

/-- Reads the options of one argument. -/
def readOption {α : Type} (specs : List (OptionSpec α)) (token : Token) (held : α)
    (rest : List String) : Except Stop (Taken α) :=
  match token with
  | .long name attached =>
    match specs.find? (·.long = name) with
    | some ⟨_, _, .flag set⟩ => do
      if attached.isSome then throw .misuse
      return (.ok (← set held), rest)
    | some ⟨_, _, .value set⟩ => takeValue set attached held rest
    | none => .error .misuse
  | .short name behind => readShort specs held rest (name :: behind)
  | .dashes => .error .misuse
  | .word _ => .error .misuse

/-- A natural number of 64 bits. -/
def countOf (text : String) : Except Stop Nat :=
  match (Number.natural? text.toList).filter (· < UInt64.size) with
  | some n => .ok n
  | none => .error .misuse

def endpointOf (text : String) : Except Stop Endpoint :=
  match Endpoint.parse text with
  | .ok endpoint => .ok endpoint
  | .error _ => .error .misuse

/-! ### Texts -/

def version : String := "0.1.0"

/-- What the program does, in one line. -/
private def about : String := "Verify and load-test an asynchronous task service"

private def lines (texts : List String) : String :=
  String.join (texts.map (· ++ "\n"))

def overview : String :=
  lines
    [about,
      "",
      "Usage: taskprobe [OPTIONS] <COMMAND>",
      "",
      "Commands:",
      "  health     Check that the service answers its health endpoint",
      "  scenarios  Run the standard scenario suite sequentially",
      "  load       Submit many tasks at once and report aggregate latency",
      "  help       Print this message or the help of the given subcommand(s)",
      "",
      "Options:",
      "  -c, --config <CONFIG>      " ++
        "Configuration file (default: config/taskprobe.toml plus TASKPROBE_ENV overlay)",
      "      --base-url <BASE_URL>  Override the service base URL",
      "      --skip-health          Skip the health pre-flight",
      "  -h, --help                 Print help",
      "  -V, --version              Print version"]

def healthHelp : String :=
  lines
    ["Check that the service answers its health endpoint",
      "",
      "Usage: taskprobe health",
      "",
      "Options:",
      "  -h, --help  Print help"]

def scenariosHelp : String :=
  lines
    ["Run the standard scenario suite sequentially",
      "",
      "Usage: taskprobe scenarios [OPTIONS]",
      "",
      "Options:",
      "      --only <ONLY>  Only run scenarios whose name contains one of these fragments",
      "  -h, --help         Print help"]

def loadHelp : String :=
  lines
    ["Submit many tasks at once and report aggregate latency",
      "",
      "Usage: taskprobe load [OPTIONS]",
      "",
      "Options:",
      "  -e, --endpoint <ENDPOINT>  Endpoint to load (scrape, crawl, search, extract)",
      "  -n, --count <COUNT>        Number of invocations",
      "  -w, --workers <WORKERS>    Maximum invocations in flight",
      "      --url <URL>            Target URL placed in generated payloads",
      "  -h, --help                 Print help"]

def helpHelp : String :=
  lines
    ["Print this message or the help of the given subcommand(s)",
      "",
      "Usage: taskprobe help [COMMAND]...",
      "",
      "Arguments:",
      "  [COMMAND]...  Print help for the subcommand(s)"]

def helpOption {α : Type} (text : String) : OptionSpec α :=
  ⟨"help", some 'h', .flag fun _ => .error (.shown text)⟩

/-! ### Commands -/

def scenarioOptions : List (OptionSpec (List String)) :=
  [⟨"only", none, .value fun value held => .ok (held ++ [value])⟩, helpOption scenariosHelp]

/-- Takes up the endpoint that a text names. -/
def setEndpoint (text : String) (held : LoadOptions) : Except Stop LoadOptions := do
  once (·.endpoint) (fun value held => { held with endpoint := some value }) (← endpointOf text) held

def loadOptions : List (OptionSpec LoadOptions) :=
  [⟨"endpoint", some 'e', .value setEndpoint⟩,
    ⟨"count", some 'n', .value fun text held => do
      once (·.count) (fun value held => { held with count := some value }) (← countOf text) held⟩,
    ⟨"workers", some 'w', .value fun text held => do
      once (·.workers) (fun value held => { held with workers := some value }) (← countOf text) held⟩,
    ⟨"url", none, .value fun text held =>
      once (·.url) (fun value held => { held with url := some value }) text held⟩,
    helpOption loadHelp]

/-- The options of a command, to the end of the line. The fuel is the number of arguments. -/
def readOptions {α : Type} (specs : List (OptionSpec α)) : Nat → α → List String → Except Stop α
  | _, held, [] => .ok held
  | 0, _, _ :: _ => .error .misuse
  | fuel + 1, held, argument :: rest =>
    match Token.of argument with
    | .dashes => if rest.isEmpty then .ok held else .error .misuse
    | token => do
      let (held, rest) ← readOption specs token held rest
      readOptions specs fuel (← held) rest

def allOptions {α : Type} (specs : List (OptionSpec α)) (initial : α)
    (rest : List String) : Except Stop α :=
  readOptions specs rest.length initial rest

/-- The help on a command. -/
def helpOn : List String → Except Stop Command
  | [] => .error (.shown overview)
  | ["health"] => .error (.shown healthHelp)
  | ["scenarios"] => .error (.shown scenariosHelp)
  | ["load"] => .error (.shown loadHelp)
  | ["help"] => .error (.shown helpHelp)
  | _ => .error .misuse

/-- The command of a name, with its options. -/
def readCommand (name : String) (rest : List String) : Except Stop Command :=
  if name = "health" then
    (allOptions [helpOption healthHelp] () rest).map fun _ => .health
  else if name = "scenarios" then (allOptions scenarioOptions [] rest).map .scenarios
  else if name = "load" then (allOptions loadOptions {} rest).map .load
  else if name = "help" then helpOn rest
  else .error .misuse

/-- The options of the whole program. -/
structure General where
  config : Option String := none
  baseUrl : Option String := none
  skipHealth : Option Unit := none

def generalOptions : List (OptionSpec General) :=
  [⟨"config", some 'c', .value fun text held =>
      if text.isEmpty then .error .misuse
      else once (·.config) (fun value held => { held with config := some value }) text held⟩,
    ⟨"base-url", none, .value fun text held =>
      once (·.baseUrl) (fun value held => { held with baseUrl := some value }) text held⟩,
    ⟨"skip-health", none, .flag fun held =>
      once (·.skipHealth) (fun value held => { held with skipHealth := some value }) () held⟩,
    helpOption overview,
    ⟨"version", some 'V', .flag fun _ => .error (.shown s!"taskprobe {version}\n")⟩]

/-- The arguments after some options of the whole program. The last of them is taken up only when the command
has been read. The fuel is the number of arguments. -/
def parseFrom : Nat → Except Stop General → List String → Except Stop Arguments
  | _, _, [] => .error .misuse
  | 0, _, _ :: _ => .error .misuse
  | fuel + 1, held, argument :: rest =>
    match Token.of argument with
    | .word name => do
      let command ← readCommand name rest
      -- the last value of an option before the command, which may turn out wrong only now
      let general ← held
      return {
        config := general.config
        baseUrl := general.baseUrl
        skipHealth := general.skipHealth.isSome
        command }
    | token => do
      let (held, rest) ← readOption generalOptions token (← held) rest
      parseFrom fuel held rest

/-- A whole command line. -/
def parse (arguments : List String) : Except Stop Arguments :=
  parseFrom arguments.length (.ok {}) arguments

end Arguments

end ServiceProbe
