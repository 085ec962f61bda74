import JarLedger.RecentPayloads
import JarLedger.Settings.Given

/-!
# Reading settings

Settings come from their defaults, from a file, and from environment variables; what comes later
counts.  Names that are no settings are ignored.
-/

namespace JarLedger

/-- The file that settings are read from. -/
inductive SettingsFile where
  /-- No file is named. -/
  | notNamed
  /-- The file that is named cannot be read. -/
  | unreadable
  /-- The text of the file. -/
  | document (text : String)
  deriving DecidableEq, Repr

/-- Why there are no settings. -/
inductive SettingsFailure where
  /-- The file is missing or is no document. -/
  | source
  /-- What is given for a setting cannot stand for it. -/
  | value
  /-- There is no worker. -/
  | noWorker
  /-- A window is too long. -/
  | windowTooLong (name : String) (secs : Nat)
  deriving DecidableEq, Repr

/-- What a failure is reported as. -/
def SettingsFailure.message : SettingsFailure → String
  | .source => "failed to read config sources"
  | .value => "failed to parse config"
  | .noWorker => "max_workers must be at least 1"
  | .windowTooLong name secs => name ++ " is out of range: " ++ toString secs

namespace Settings

/-- What the file and the environment give, in the order in which it counts. -/
def given? (file : SettingsFile) (environment : List (String × String)) :
    Option (List (String × Given)) :=
  match file with
  | .notNamed => some (Given.ofVariables environment)
  | .unreadable => none
  | .document text =>
      (Toml.read? text).map fun members => Given.ofMembers members ++ Given.ofVariables environment

/-- The value of a setting: the default unless something is given, and none if that cannot stand
for it. -/
def setting? (all : List (String × Given)) (name : String) (convert? : Given → Option α)
    (default : α) : Option α :=
  match Given.last? all name with
  | none => some default
  | some given => convert? given

/-- The settings that are given. -/
def ofGiven? (all : List (String × Given)) : Option Settings := do
  let unset : Settings := {}
  return {
    databaseUrl := ← setting? all "database_url" Given.toText? unset.databaseUrl
    databaseMaxConnections :=
      ← setting? all "database_max_connections"
        (fun given => given.toNat?.filter fun count => count < UInt32.size)
        unset.databaseMaxConnections
    maxWorkers := ← setting? all "max_workers" Given.toNat? unset.maxWorkers
    acceptedContentType :=
      ← setting? all "accepted_content_type" Given.toText? unset.acceptedContentType
    archiveDataDirectory :=
      ← setting? all "archive_data_prefix" Given.toText? unset.archiveDataDirectory
    dedupeWindowSecs := ← setting? all "dedupe_window_secs" Given.toNat? unset.dedupeWindowSecs
    archiveDedupeWindowSecs :=
      ← setting? all "archive_dedupe_window_secs" Given.toNat? unset.archiveDedupeWindowSecs
    serializeByLinkingHash :=
      ← setting? all "serialize_by_linking_hash" Given.toBool? unset.serializeByLinkingHash
    logLevel := ← setting? all "log_level" Given.toText? unset.logLevel
    logDirectory :=
      ← setting? all "log_dir" (fun given => given.toText?.map some) unset.logDirectory }

/-- The settings themselves if they can be worked with. -/
def check (settings : Settings) : Except SettingsFailure Settings :=
  if settings.maxWorkers = 0 then .error .noWorker
  else if (RecentPayloads.windowOfSecs? settings.dedupeWindowSecs).isNone then
    .error (.windowTooLong "dedupe_window_secs" settings.dedupeWindowSecs)
  else if (RecentPayloads.windowOfSecs? settings.archiveDedupeWindowSecs).isNone then
    .error (.windowTooLong "archive_dedupe_window_secs" settings.archiveDedupeWindowSecs)
  else .ok settings

/-- The settings of a run. -/
def read (file : SettingsFile) (environment : List (String × String)) :
    Except SettingsFailure Settings :=
  match given? file environment with
  | none => .error .source
  | some all =>
      match ofGiven? all with
      | none => .error .value
      | some settings => settings.check

end Settings
end JarLedger
