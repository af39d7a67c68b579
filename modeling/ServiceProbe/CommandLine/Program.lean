import ServiceProbe.CommandLine.Arguments
import ServiceProbe.Config.Loading
import ServiceProbe.Files.Tree
import ServiceProbe.LoadTest
import ServiceProbe.Scenario.Catalogue

/-!
# The program

The program reads its arguments, loads the configuration, makes a client, checks the health of the service
and carries out the command. Whatever is wrong before that stops it: `Launch.of` settles all of it without
asking the service. `Arguments.session` is what remains, and `Program.run` is the whole of it.
-/

namespace ServiceProbe

open Http

/-- The code a program ends with. -/
abbrev ExitCode := Nat

/-- The code for misused arguments. -/
def misuseCode : ExitCode := 2

/-- The code of a program that breaks off. -/
def crashCode : ExitCode := 101

/-- The code for success or failure. -/
def exitCode (succeeded : Bool) : ExitCode :=
  if succeeded then 0 else 1

/-- The code for the end of what was asked for. -/
def Ending.exitCode : Ending Bool → ExitCode
  | .returned succeeded => ServiceProbe.exitCode succeeded
  | .crashed _ => crashCode

/-! ### Before the service is asked -/

/-- What the program finds around it. -/
structure Surroundings where
  arguments : List String
  environment : Config.Environment
  files : Config.Files

/-- The configuration that the arguments ask for. A base URL among them replaces the configured one, and
what comes out is validated again. -/
def Arguments.configuration (arguments : Arguments) (environment : Config.Environment)
    (files : Config.Files) : Except Error Config := do
  let config ←
    match arguments.config with
    | some path => Config.loadFromFile environment files path
    | none => Config.loadStandard environment files
  match arguments.baseUrl with
  | none => return config
  | some baseUrl =>
    -- it was valid when it was loaded, and this may not be
    let config := { config with api := { config.api with baseUrl } }
    config.validate
    return config

/-- How far the program comes on its own. -/
inductive Launch where
  /-- It stops at its arguments. -/
  | stopped (stop : Stop)
  /-- It has no configuration. -/
  | unconfigured (e : Error)
  /-- It is configured; the client may still be impossible to make. -/
  | configured (arguments : Arguments) (config : Config) (client : Except Error Client)

/-- The start of the program. -/
def Launch.of (around : Surroundings) : Launch :=
  match Arguments.parse around.arguments with
  | .error stop => .stopped stop
  | .ok arguments =>
    match arguments.configuration around.environment around.files with
    | .error e => .unconfigured e
    | .ok config => .configured arguments config (Client.make (ClientSettings.ofApi config.api))

/-- The line that tells why there is no configuration. -/
def refusal (e : Error) : String :=
  "taskprobe: " ++ Text.joinWith ": " e.chain ++ "\n"

/-! ### The log -/

/-- What comes of opening a log file in a directory, which is made if it is not there. -/
inductive LogOpening where
  | opened
  /-- The directory cannot be made. -/
  | noDirectory (fault : PathFault)
  /-- The directory is there, but a file cannot be made in it. -/
  | noFile

/-- The line that tells why there is no log file. -/
def logComplaint (directory fault : String) : String :=
  s!"taskprobe: cannot create log directory {directory}: {fault}; logging to console only\n"

/-- The log that a program keeps besides what it shows. -/
structure LogFile where
  /-- The directory in which there is a file. -/
  directory : Option String := none
  complaints : String := ""

/-- The log that is asked for. Without the directory there is no file; without the file in it the program breaks
off. -/
def LoggingSettings.start? (settings : LoggingSettings) (openLog : String → LogOpening) : Option LogFile :=
  match settings.logDir with
  | none => some {}
  | some directory =>
    match openLog directory with
    | .opened => some { directory := some directory }
    | .noDirectory fault => some { complaints := logComplaint directory fault.message }
    | .noFile => none

/-! ### The commands -/

/-- The load test of the configuration, with what the command line says instead. -/
def LoadOptions.plan (options : LoadOptions) (config : Config) : Except Error LoadPlan := do
  let plan ← LoadPlan.ofConfig config
  return { plan with
    endpoint := options.endpoint.getD plan.endpoint
    count := options.count.getD plan.count
    workers := options.workers.getD plan.workers }

/-- The payloads of a load test on the command line. -/
def LoadOptions.payloads (options : LoadOptions) (config : Config) (plan : LoadPlan) :
    PayloadSource := fun index =>
  .ok (Payload.forLoad plan.endpoint (options.url.getD config.load.targetUrl) index)

/-- Carries out a command and says whether all went well. A load test can break off. -/
def Command.session (command : Command) (config : Config) (runId : String) : Session (Ending Bool) :=
  match command with
  | .health => return .returned true
  | .scenarios only => do
    let report ← Scenario.runAll config (Scenario.selected only)
    Session.say report.describe
    return .returned report.allPassed
  | .load options =>
    match options.plan config with
    -- no configuration that has been validated comes here
    | .error _ => return .returned false
    | .ok plan => do
      match ← plan.session (options.payloads config plan) with
      | .crashed text => return .crashed text
      | .returned report =>
        Session.say (report.describe runId plan.endpoint)
        return .returned report.passed

/-- The health of the service decides before the command, unless it is skipped; it is all there is to the
health command. -/
def Arguments.session (arguments : Arguments) (config : Config) (client : Client) (runId : String) :
    Session (Ending Bool) := do
  let isHealth := arguments.command = .health
  if arguments.skipHealth && !isHealth then arguments.command.session config runId
  else
    let well ← Session.checkHealth
    let state := if well then "ok" else "FAILED"
    Session.say s!"Health check {client.baseUrl.text}: {state}\n"
    if !well || isHealth then return .returned well
    else arguments.command.session config runId

/-! ### The whole -/

/-- What the program leaves behind. -/
structure Finished (τ : Type) where
  code : ExitCode
  output : String := ""
  complaints : String := ""
  /-- The directory in which a log file is made. -/
  logDirectory : Option String := none
  state : τ
  trace : List Step := []

/-- The whole program over a network; `openLog` says what comes of opening a log file in a directory. The words with
which a program breaks off are left out. -/
def Surroundings.run {τ : Type} (around : Surroundings) (openLog : String → LogOpening) (network : Network τ)
    (state : τ) (runId : String) : Finished τ :=
  match Launch.of around with
  | .stopped .misuse => { code := misuseCode, state }
  | .stopped (.shown text) => { code := exitCode true, output := text, state }
  | .unconfigured e => { code := exitCode false, complaints := refusal e, state }
  | .configured arguments config client =>
    -- the log is opened before a client is made
    match config.logging.start? openLog, client with
    | none, _ => { code := crashCode, state }
    | some log, .error _ =>
      { code := exitCode false, complaints := log.complaints, logDirectory := log.directory, state }
    | some log, .ok client =>
      let played := (arguments.session config client runId).run (client.service network) 0 state
      { code := played.result.exitCode
        output := played.printed
        complaints := log.complaints
        logDirectory := log.directory
        state := played.state
        trace := played.trace }

end ServiceProbe
