import Std.Time
import ServiceProbe.CommandLine.Program
import ServiceProbe.Live.Performance

/-!
# The command line

The outermost layer: it gathers the arguments, the variables and the files, starts the program, opens the
log, and performs the session that is left to do.
-/

namespace ServiceProbe.Live

/-! ### Surroundings -/

/-- The text of a file, if it can be read. -/
private def readFile? (path : String) : IO (Option String) := do
  try return some (Text.ofBytes (← IO.FS.readBinFile path).toList)
  catch _ => return none

/-- The variables of this process, as the system shows them. -/
private def processEnvironment : IO Config.Environment := do
  let entries := ((← readFile? "/proc/self/environ").getD "").splitOn "\x00"
  return entries.filterMap fun entry =>
    match Url.splitAtMark '=' entry.toList with
    | (name, some value) => some (String.ofList name, String.ofList value)
    | _ => none

/-- The paths of the files a start may read. -/
private def candidatePaths (arguments : List String) (environment : Config.Environment) :
    List String :=
  match Arguments.parse arguments with
  | .error _ => []
  | .ok parsed =>
    match parsed.config with
    | some path => [path]
    | none =>
      let chosen := (environment.lookup Config.selectorName).getD Config.defaultEnvironment
      let endings := Config.FileFormat.all.flatMap Config.FileFormat.endings
      ["config/taskprobe", s!"config/taskprobe.{chosen}"].flatMap fun stem =>
        -- a file called by the stem itself goes before all others
        stem :: endings.filterMap fun ending => Path.withEnding? ending stem

private def surroundings (arguments : List String) : IO Surroundings := do
  let environment ← processEnvironment
  let files ← (candidatePaths arguments environment).filterMapM fun path => do
    return (← readFile? path).map fun text => (path, text)
  return { arguments, environment, files := Config.Files.ofTexts fun path => files.lookup path }

/-! ### The log -/

/-- The levels, from the one that lets most events pass on. -/
private def levels : List String := ["trace", "debug", "info", "warn", "error", "off"]

/-- An event of a level passes where the configured one is not above it. -/
private def passes (configured : String) (level : Level) : Bool :=
  let rank (name : String) : Nat := (levels.idxOf? name).getD 2
  let small (text : String) : String := String.ofList (Text.lowerAscii text.toList)
  rank (small configured) ≤ rank (small level.name)

/-- An event as one line of JSON. -/
private def eventLine (event : Event) : String :=
  let fields :=
    match event with
    | .taskOperation operation =>
      [("operation", Json.string operation.operation), ("task_id", Json.string operation.taskId),
        ("endpoint", Json.string operation.endpoint.path), ("status", Json.string operation.status),
        ("elapsed_ms", Json.ofNat operation.elapsedMillis)]
    | .invocationOutcome index outcome =>
      [("invocation", Json.ofNat index), ("kind", Json.string outcome.kind.eventName),
        ("latency_ms", Json.number (.double (Nanos.milliseconds outcome.latency)))]
  let detail := (event.detail?.map fun text => ("details", Json.string text)).toList
  (Json.ofMembers
    ([("level", Json.string event.level.name), ("message", Json.string event.name)] ++ fields ++
      detail)).render

/-- The number of this process. -/
private def processId : IO String := do
  let line := (← readFile? "/proc/self/stat").getD "0"
  return String.ofList (line.toList.takeWhile Char.isDigit)

/-- The present second of the calendar, without separators but between day and time. -/
private def timeStamp : IO String := do
  let now ← Std.Time.Timestamp.now
  return (Std.Time.DateTime.ofTimestampWithZone now .UTC).format "uuuuMMdd'_'HHmmss"

/-- The directory for the log, and why it cannot be made, if it cannot. -/
private def makeDirectory (directory : String) : IO (Option String) := do
  try
    if directory ≠ "" then IO.FS.createDirAll directory
    return none
  catch e => return some (logComplaint directory e.toString)

/-- The log file in a directory. That it cannot be made ends the program. -/
private def openLog (directory : String) : IO IO.FS.Handle := do
  let start := if directory = "" then "" else directory ++ "/"
  let path := s!"{start}taskprobe.{← processId}.{← timeStamp}.log"
  IO.FS.Handle.mk path .append

/-- Who keeps the log: the error stream and, if there is one, a file. -/
private def keeper (settings : LoggingSettings) : IO (Event → IO Unit) := do
  let file ←
    match settings.logDir with
    | none => pure none
    | some directory =>
      match ← makeDirectory directory with
      | none => pure (some (← openLog directory))
      | some complaint =>
        IO.eprint complaint
        pure none
  return fun event => do
    if passes settings.level event.level then
      let line := eventLine event
      IO.eprintln line
      match file with
      | none => pure ()
      | some file =>
        file.putStrLn line
        file.flush

/-! ### The program -/

/-- A random id in the usual form of five groups. -/
private def randomId : IO String := do
  let digits ← (List.range 32).mapM fun place => do
    let n ← IO.rand 0 15
    let n := if place = 12 then 4 else if place = 16 then 8 + n % 4 else n
    return Text.hexDigit n
  let group (start length : Nat) : String := String.ofList ((digits.drop start).take length)
  return "-".intercalate [group 0 8, group 8 4, group 12 4, group 16 4, group 20 12]

private def code (n : ExitCode) : UInt32 := n.toUInt32

/-- Runs the program. -/
def run (arguments : List String) : IO UInt32 := do
  match Launch.of (← surroundings arguments) with
  | .stopped .misuse =>
    IO.eprintln "error: invalid arguments\n"
    IO.eprint Arguments.overview
    return code misuseCode
  | .stopped (.shown text) =>
    IO.print text
    return code (exitCode true)
  | .unconfigured e =>
    IO.eprint (refusal e)
    return code (exitCode false)
  | .configured parsed config client =>
    try
      let log ← keeper config.logging
      match client with
      | .error _ => return code (exitCode false)
      | .ok client =>
        let session := parsed.session config client (← randomId)
        let ending ← perform { client, log } session
        return code ending.exitCode
    catch e =>
      IO.eprintln e
      return code crashCode

end ServiceProbe.Live

/-- The entry point. -/
def main (arguments : List String) : IO UInt32 :=
  ServiceProbe.Live.run arguments
