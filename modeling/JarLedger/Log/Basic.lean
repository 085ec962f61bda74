import JarLedger.Log.Event
import JarLedger.Settings.Basic
import JarLedger.Text.Places
import JarLedger.Text.Quoted

/-!
# The log

A process has one log, which is opened once.  It goes to a file in a directory, or to the standard
output where no directory is set.  Opening makes the directory with all those above it, which fails
where a plain file stands in the way.
-/

namespace JarLedger

/-- Why the log cannot be opened. -/
inductive LogFailure where
  /-- The filter is malformed. -/
  | badFilter (text : String)
  /-- The directory cannot be made. -/
  | badDirectory (path : String)
  /-- The process has a log already. -/
  | alreadyOpen
  deriving DecidableEq, Repr

/-- Wording of a failure to open the log. -/
def LogFailure.message : LogFailure → String
  | .badFilter text => "invalid log level " ++ quotedName text
  | .badDirectory path => "failed to create log directory " ++ Text.quoted path
  | .alreadyOpen => "Failed to set tracing subscriber"

/-- An open log. -/
structure Log where
  filter : LogFilter
  /-- The directory of the log file; without one the log goes to the standard output. -/
  directory : Option String
  /-- What is noted, last first. -/
  noted : List LogEvent := []
  deriving DecidableEq, Repr

namespace Log

/-- Note an event if the filter lets it. -/
def note (log : Log) (event : LogEvent) : Log :=
  if log.filter.admitsEvent event then { log with noted := event :: log.noted } else log

/-- Note events in order. -/
def noteAll (log : Log) (events : List LogEvent) : Log := events.foldl note log

/-- Whether a directory can be made among plain files at some places. -/
def canMake (files : List Text.Place) (directory : String) : Bool :=
  (Text.Place.way directory).all fun place => !files.contains place

/-- The file that a log goes to, if it does not go to the standard output. -/
def file? (log : Log) : Option String :=
  log.directory.map fun directory =>
    if directory = "" ∨ directory.endsWith "/" then directory ++ Settings.logFileName
    else directory ++ "/" ++ Settings.logFileName

/-- What is noted first. -/
def opening (log : Log) : LogEvent :=
  let place := match log.file? with
    | some file => Text.quoted file
    | none => "stdout"
  ⟨.info, .log, "Logging system initialized. Writing to " ++ place⟩

/-- Open the log of a process, in which a log may be open already. -/
def start (isOpen : Bool) (files : List Text.Place) (level : String)
    (directory : Option String) : Except LogFailure Log :=
  match LogFilter.ofText? level with
  | none => .error (.badFilter level)
  | some filter =>
      match directory.filter fun directory => !canMake files directory with
      | some directory => .error (.badDirectory directory)
      | none =>
          if isOpen then .error .alreadyOpen
          else
            let log : Log := { filter, directory }
            .ok (log.note log.opening)

/-- How many events of a severity were noted. -/
def count (log : Log) (severity : Severity) : Nat :=
  log.noted.countP fun event => event.severity = severity

end Log
end JarLedger
