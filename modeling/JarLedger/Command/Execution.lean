import JarLedger.Command.Arguments
import JarLedger.Log.Basic
import JarLedger.ObjectStore.Web
import JarLedger.Settings.Reader
import JarLedger.Sql.Migration
import JarLedger.Sql.Store
import JarLedger.Store.Memory
import JarLedger.WorkerPool.Basic

/-!
# Executing a command

From a command line to the end of the process.  First the settings are read, then the log is opened,
then the database is connected where the command needs one, and then the work is done; each step may
end the process with a message.  A run ends with a summary of what became of the announcements and
of what is in the store.
-/

namespace JarLedger

/-- What a command finds around it; `σ` are the states of the database server. -/
structure Surroundings (σ : Type) where
  arguments : List String
  /-- The environment variables. -/
  environment : List (String × String)
  /-- The plain files, each with its text. -/
  files : List (String × String)
  /-- The bytes of the standard input. -/
  input : List UInt8
  web : Web
  /-- The time in milliseconds, by how often it was read before. -/
  clock : Nat → Int
  /-- How the database answers. -/
  peer : Peer σ
  /-- The database behind an address, if it can be reached. -/
  database : String → Option σ

/-- How a process ends. -/
inductive Exit where
  /-- As it should, with what it prints. -/
  | finished (summary : Option Json)
  /-- With a message. -/
  | failed (message : String)
  /-- Because the command line is not understood. -/
  | misused
  /-- In the middle of its work. -/
  | crashed

/-- Code of an exit. -/
def Exit.code : Exit → Nat
  | .finished _ => 0
  | .failed _ => 1
  | .misused => 2
  | .crashed => 101

/-- What a process leaves behind. -/
structure Outcome (σ : Type) where
  exit : Exit
  log : Option Log := none
  /-- The connection to the database, if there was one. -/
  connection : Option (Connection σ) := none

namespace Command

/-- Wording of a database that cannot be reached. -/
def unreachableDatabase : String := "failed to connect to the inventory database"

/-- Wording of a store whose rows cannot be counted. -/
def uncountableStore : String := "failed to read store counts"

/-- More workers than this cannot be had. -/
def greatestWorkers : Nat := Nat.pow 2 61 - 1

variable {σ τ : Type}

/-- The settings file at a path: the file itself, or one with the ending of its format. -/
def settingsFile (files : List (String × String)) : Option String → SettingsFile
  | none => .notNamed
  | some path =>
      let textAt (path : String) : Option String :=
        (files.find? fun file => Text.Place.ofPath file.1 = Text.Place.ofPath path).map Prod.snd
      match if path.endsWith "/" then none else textAt path <|> textAt (path ++ ".toml") with
      | some text => .document text
      | none => .unreadable

/-- The settings of a run. -/
def settings (around : Surroundings σ) (path : Option String) : Except String Settings :=
  (Settings.read (settingsFile around.files path) around.environment).mapError
    SettingsFailure.message

/-- The log of a run. -/
def openLog (around : Surroundings σ) (settings : Settings) : Except String Log :=
  (Log.start false (around.files.map fun file => Text.Place.ofPath file.1) settings.logLevel
    settings.logDirectory).mapError LogFailure.message

/-- The settings and the open log of a run. -/
def prepare (around : Surroundings σ) (path : Option String) : Except String (Settings × Log) := do
  let settings ← settings around path
  return (settings, ← openLog around settings)

/-- A connection to the database; none can be had if none is allowed. -/
def connect (around : Surroundings σ) (settings : Settings) : Option (Connection σ) :=
  if settings.databaseMaxConnections = 0 then none
  else (around.database settings.databaseUrl).map fun state => { peer := state }

/-- What is noted about a connection. -/
def connected : LogEvent := ⟨.info, .database, "Connected to inventory database"⟩

/-- What is noted about the tables. -/
def migrated : LogEvent := ⟨.info, .database, "Database migrations applied"⟩

/-- What is noted about the end of a connection. -/
def disconnected : LogEvent := ⟨.info, .database, "Successfully closed connection pool"⟩

/-- What is noted before the first announcement. -/
def reading : LogEvent := ⟨.info, .command, "reading envelopes from stdin"⟩

/-- Bring the tables of the database up to date. -/
def updateTables (around : Surroundings σ) (connection : Connection σ) (log : Log) : Outcome σ :=
  match (Migration.migrate around.peer).request connection with
  | (.error _, connection) =>
      { exit := .failed Migration.failureMessage, log := some log, connection := some connection }
  | (.ok _, connection) =>
      { exit := .finished none
        log := some (log.noteAll [migrated, disconnected])
        connection := some connection }

/-- The summary of a run. -/
def summary (tally : Tally) (counts : StoreCounts) : Json :=
  .ofMembers [("stats", tally.toJson), ("store", counts.toJson)]

/-- How a run over a store ended, what is in the store then, and the log. -/
structure RunEnd (τ : Type) where
  exit : Exit
  store : τ
  log : Log

/-- Work on all announcements of the standard input. -/
def runOver (around : Surroundings σ) (settings : Settings) (channel : Channel)
    (store : Store τ) (state : τ) (log : Log) : RunEnd τ :=
  if greatestWorkers < settings.maxWorkers then { exit := .crashed, store := state, log }
  else
    let pipeline := Pipeline.ofSettings settings around.web.objectStore around.clock store
    let space : Workspace τ :=
      { store := state, filter := .recent (.ofSettings settings) }
    let run := WorkerPool.run pipeline channel settings.maxWorkers around.input space
    let log := (log.note reading).noteAll (run.pool.handled.reverse.flatMap LogEvent.ofHandled)
    if !run.isWhole then
      { exit := .failed WorkerPool.unreadableInput, store := run.pool.space.store, log }
    else
      let log := log.note .exhausted
      match store.counts run.pool.space.store with
      | (.error _, state) => { exit := .failed uncountableStore, store := state, log }
      | (.ok counts, state) =>
          { exit := .finished (some (summary run.pool.tally counts)), store := state, log }

/-- Execute a command with its settings and its log. -/
def executeWith (around : Surroundings σ) (settings : Settings) (log : Log) :
    Command → Outcome σ
  | .run channel true =>
      let ended := runOver around settings channel MemoryStore.store {} log
      { exit := ended.exit, log := some ended.log }
  | command =>
      match connect around settings with
      | none => { exit := .failed unreachableDatabase, log := some log }
      | some connection =>
          let log := log.note connected
          match command with
          | .migrate => updateTables around connection log
          | .run channel _ =>
              let ended :=
                runOver around settings channel (Sql.store around.peer) connection log
              { exit := ended.exit, log := some ended.log, connection := some ended.store }

/-- Execute a command line. -/
def execute (around : Surroundings σ) : Outcome σ :=
  match CommandLine.read around.arguments with
  | .misuse => { exit := .misused }
  | .inquiry => { exit := .finished none }
  | .work invocation =>
      match prepare around invocation.settingsPath with
      | .error message => { exit := .failed message }
      | .ok (settings, log) => executeWith around settings log invocation.command

end Command
end JarLedger
