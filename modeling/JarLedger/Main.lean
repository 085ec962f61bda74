import JarLedger.Command.Execution

/-!
# The program

Reads what the command finds around it, executes it, and writes the log, the summary and the
messages.  No web and no database can be reached from here, so only dry runs get to the work, and
every object counts as unreachable.
-/

namespace JarLedger
namespace Program

/-- Names of the environment variables that hold settings. -/
def variableNames : List String :=
  ["DATABASE_URL", "DATABASE_MAX_CONNECTIONS", "MAX_WORKERS", "ACCEPTED_CONTENT_TYPE",
    "ARCHIVE_DATA_PREFIX", "DEDUPE_WINDOW_SECS", "ARCHIVE_DEDUPE_WINDOW_SECS",
    "SERIALIZE_BY_LINKING_HASH", "LOG_LEVEL", "LOG_DIR"].map fun name =>
      Settings.environmentName ++ "_" ++ name

/-- The environment variables that hold settings. -/
def readVariables : IO (List (String × String)) :=
  variableNames.filterMapM fun name => do
    return (← IO.getEnv name).map fun text => (name, text)

/-- The text of a file, if it can be read. -/
def readFile (path : String) : IO (Option (String × String)) := do
  try
    return some (path, ← IO.FS.readFile path)
  catch _ => return none

/-- The settings files that a command line may mean. -/
def settingsPaths (arguments : List String) : List String :=
  match CommandLine.read arguments with
  | .work { settingsPath := some path, .. } => [path, path ++ ".toml"]
  | _ => []

/-- The bytes of a stream up to its end. -/
partial def readBytes (stream : IO.FS.Stream) (bytes : ByteArray) : IO ByteArray := do
  let more ← stream.read 65536
  if more.isEmpty then return bytes else readBytes stream (bytes ++ more)

/-- Write the lines of a log where it goes. -/
def writeLog (log : Log) : IO Unit := do
  let text := String.join (log.noted.reverse.map fun event => event.line ++ "\n")
  match log.directory, log.file? with
  | some directory, some file =>
      if directory ≠ "" then IO.FS.createDirAll directory
      let handle ← IO.FS.Handle.mk file .append
      handle.putStr text
  | _, _ => IO.print text

/-- Write the log, and tell whether that worked. -/
def tryLog (log : Log) : IO Bool := do
  try
    writeLog log
    return true
  catch _ =>
    IO.eprintln ("Error: " ++ (LogFailure.badDirectory (log.directory.getD "")).message)
    return false

/-- Write what a process prints at its end, and give its code. -/
def report (ending : Exit) : IO UInt32 := do
  match ending with
  | .finished (some summary) => IO.println (summary.wideText 0)
  | .failed message => IO.eprintln ("Error: " ++ message)
  | .misused => IO.eprintln "Usage: inventory-ingest [--config <CONFIG>] <migrate|run|help>"
  | _ => pure ()
  return UInt32.ofNat ending.code

/-- The bytes of the standard input, if the command needs them. -/
def readInput (arguments : List String) : IO (List UInt8) :=
  match CommandLine.read arguments with
  | .work { command := .run _ true, .. } => do
      let bytes ← readBytes (← IO.getStdin) .empty
      return bytes.toList
  | _ => return []

/-- Execute a command line. -/
def run (arguments : List String) : IO UInt32 := do
  let environment ← readVariables
  let files ← (settingsPaths arguments).filterMapM readFile
  let input ← readInput arguments
  let now ← IO.monoMsNow
  let surroundings : Surroundings Unit := {
    arguments, environment, files, input
    web := Web.unreachable
    clock := fun _ => (now : Int)
    peer := fun _ state => (.error .unexpected, state)
    database := fun _ => none }
  let outcome := Command.execute surroundings
  match outcome.log with
  | some log => if ← tryLog log then report outcome.exit else return 1
  | none => report outcome.exit

end Program
end JarLedger

/-- Execute the command line. -/
def main (arguments : List String) : IO UInt32 := JarLedger.Program.run arguments
