import JarLedger.Bytes.Hex
import JarLedger.Bytes.Utf8
import JarLedger.Digest.Crc32
import JarLedger.Digest.Sha2
import JarLedger.Sql.Connection
import JarLedger.Sql.Schema

/-!
# Migrations

Bringing the schema of a server up to date.  The server keeps a table of the migrations applied to
it, with a digest of each script; one that is unknown, damaged or left unfinished stops everything.
A migration is applied and recorded in one transaction.  A lock keeps others away meanwhile.
-/

namespace JarLedger

/-- A step of the schema. -/
structure Migration where
  /-- Steps are applied in the order of their versions. -/
  version : Int
  description : String
  /-- What the step does. -/
  script : String

namespace Migration

/-- All steps in order. -/
def all : List Migration := [⟨20250501000000, "create instances", Schema.script⟩]

/-- Digest of the script. -/
def checksum (migration : Migration) : List UInt8 := Sha2.sha384 (Utf8.encode migration.script)

/-- Query for the name of the database. -/
def databaseText : String := "SELECT current_database()"

/-- Statement that takes the lock. -/
def lockText : String := "SELECT pg_advisory_lock($1)"

/-- Statement that gives the lock back. -/
def unlockText : String := "SELECT pg_advisory_unlock($1)"

/-- Statement that creates the table of the migrations applied. -/
def tableText : String :=
  "
CREATE TABLE IF NOT EXISTS _sqlx_migrations (
    version BIGINT PRIMARY KEY,
    description TEXT NOT NULL,
    installed_on TIMESTAMPTZ NOT NULL DEFAULT now(),
    success BOOLEAN NOT NULL,
    checksum BYTEA NOT NULL,
    execution_time BIGINT NOT NULL
);
                "

/-- Query for a migration that was left unfinished. -/
def unfinishedText : String :=
  "SELECT version FROM _sqlx_migrations WHERE success = false ORDER BY version LIMIT 1"

/-- Query for the migrations applied. -/
def appliedText : String := "SELECT version, checksum FROM _sqlx_migrations ORDER BY version"

/-- Statement that records a migration. -/
def recordText : String :=
  "
    INSERT INTO _sqlx_migrations ( version, description, success, checksum, execution_time )
    VALUES ( $1, $2, TRUE, $3, -1 )
                "

/-- Statement that records how long a migration took. -/
def timeText : String :=
  "
    UPDATE _sqlx_migrations
    SET execution_time = $1
    WHERE version = $2
                "

/-- The number of the lock of a database. -/
def lockNumber (database : String) : Int :=
  0x3d32ad9e * ((Crc32.checksum (Utf8.encode database)).toNat : Int)

/-- The name in the first row of an answer. -/
def firstName? (reply : Reply) : Option String := do
  let row ← reply.rows.head?
  (← row.head?).text?

/-- The version and the digest in a row. -/
def appliedOfRow? : List SqlValue → Option (Int × List UInt8)
  | [.int version, .bytes digest] => some (version, digest)
  | [.int version, .text digits] => (Hex.decode? digits).map fun digest => (version, digest)
  | _ => none

/-- Whether every migration applied is a known one with the same script. -/
def areKnown (applied : List (Int × List UInt8)) : Bool :=
  applied.all fun entry =>
    all.any fun migration => migration.version = entry.1 ∧ migration.checksum = entry.2

/-- The migrations that are not applied yet. -/
def missing (applied : List (Int × List UInt8)) : List Migration :=
  all.filter fun migration => applied.all fun entry => entry.1 ≠ migration.version

variable {σ : Type}

/-- Send a statement and take no interest in the answer. -/
def send (peer : Peer σ) (words : String) (values : List SqlValue) : SqlWork σ Unit :=
  discard (Connection.query peer (.plain words values))

/-- What is done to apply a migration, inside its transaction. -/
def steps (peer : Peer σ) (migration : Migration) : SqlWork σ Unit := do
  send peer migration.script []
  send peer recordText
    [.int migration.version, .text migration.description, .bytes migration.checksum]

/-- Work in a transaction of its own, which is given up where the work fails. -/
def inTransaction (peer : Peer σ) (work : SqlWork σ Unit) : SqlWork σ Unit := do
  Connection.begin peer
  tryCatch work fun cause => do
    modify fun connection => connection.abandon peer
    throw cause
  Connection.close peer .commit

/-- Apply a migration. -/
def apply (peer : Peer σ) (migration : Migration) : SqlWork σ Unit := do
  inTransaction peer (steps peer migration)
  send peer timeText [.int 0, .int migration.version]

/-- Send a statement about the lock of the database. -/
def sendLock (peer : Peer σ) (words : String) : SqlWork σ Unit := do
  let reply ← Connection.query peer (.plain databaseText [])
  let database ← Connection.expect (firstName? reply)
  send peer words [.int (lockNumber database)]

/-- The migrations applied so far, all of which have to be in order. -/
def applied (peer : Peer σ) : SqlWork σ (List (Int × List UInt8)) := do
  let unfinished ← Connection.query peer (.plain unfinishedText [])
  if !unfinished.rows.isEmpty then throw .database
  let reply ← Connection.query peer (.plain appliedText [])
  let applied ← Connection.expect (reply.rows.mapM appliedOfRow?)
  if areKnown applied then return applied else throw .database

/-- Apply all migrations that are missing. -/
def migrate (peer : Peer σ) : SqlWork σ Unit := do
  sendLock peer lockText
  send peer tableText []
  let applied ← applied peer
  (missing applied).forM (apply peer)
  sendLock peer unlockText

/-- Wording of migrations that failed. -/
def failureMessage : String := "failed to run migrations"

end Migration
end JarLedger
