import JarLedger.Sql.Statement
import JarLedger.Store.Basic

/-!
# Connections to a server

A peer is whatever answers statements.  A connection keeps a log of the statements that it is asked
to send and of those that it sends, and knows whether a transaction is open; a transaction that is
left without an end is rolled back.  A statement with too many values is never sent.
-/

namespace JarLedger

/-- Why a statement did not succeed. -/
inductive SqlFailure where
  /-- The server refused it with a state code. -/
  | refused (code : String)
  /-- It has more values than can be sent. -/
  | tooLong
  /-- The answer is not of the form that was asked for. -/
  | unexpected
  deriving DecidableEq, Repr

/-- Whether a failure tells that a key is taken. -/
def SqlFailure.isUniqueViolation : SqlFailure → Bool
  | .refused code => code = "23505"
  | _ => false

/-- An answer to a statement. -/
structure Reply where
  rows : List (List SqlValue) := []
  /-- How many rows the statement touched. -/
  affected : Nat := 0

/-- Whatever answers statements. -/
abbrev Peer (σ : Type) : Type := Statement → σ → Except SqlFailure Reply × σ

/-- Greatest number of values in one statement. -/
def bindLimit : Nat := 65535

/-- A connection to a peer with states `σ`. -/
structure Connection (σ : Type) where
  peer : σ
  /-- The statements that it was asked to send, last first. -/
  asked : List Statement := []
  /-- The statements sent, last first. -/
  sent : List Statement := []
  /-- Whether a transaction is open. -/
  isOpen : Bool := false

/-- Work on a connection. -/
abbrev SqlWork (σ α : Type) : Type := ExceptT PersistenceError (StateM (Connection σ)) α

namespace SqlWork

variable {σ α : Type}

/-- Work as a request to a store. -/
def request (work : SqlWork σ α) : Request (Connection σ) α := fun connection => work connection

end SqlWork

namespace Connection

variable {σ : Type}

/-- Send a statement, unless it has too many values, and take the answer. -/
def ask (peer : Peer σ) (statement : Statement) (connection : Connection σ) :
    Except SqlFailure Reply × Connection σ :=
  let connection := { connection with asked := statement :: connection.asked }
  if bindLimit < statement.parameters.length then (.error .tooLong, connection)
  else
    let (answer, state) := peer statement connection.peer
    (answer, { connection with peer := state, sent := statement :: connection.sent })

/-- Send a statement; a failure is one of the database. -/
def query (peer : Peer σ) (statement : Statement) : SqlWork σ Reply := fun connection =>
  match connection.ask peer statement with
  | (.ok reply, connection) => (.ok reply, connection)
  | (.error _, connection) => (.error .database, connection)

/-- Refuse an answer that is not of the form that was asked for. -/
def expect (found : Option α) : SqlWork σ α :=
  match found with
  | some value => pure value
  | none => throw .database

/-- The first number of the first row of an answer. -/
def firstNumber? (reply : Reply) : Option Int := do
  let row ← reply.rows.head?
  (← row.head?).int?

/-- Give up a transaction that is left without an end; nobody hears whether that works. -/
def abandon (peer : Peer σ) (connection : Connection σ) : Connection σ :=
  { (connection.ask peer .rollback).2 with isOpen := false }

/-- Open a transaction; one that is open already is given up then. -/
def begin (peer : Peer σ) : Request (Connection σ) Unit := fun connection =>
  match connection.ask peer .begin with
  | (.error _, connection) => (.error .database, connection)
  | (.ok _, begun) =>
      let begun := if begun.isOpen then begun.abandon peer else begun
      (.ok (), { begun with isOpen := true })

/-- End a transaction by a statement; if that fails it is given up. -/
def close (peer : Peer σ) (statement : Statement) : Request (Connection σ) Unit :=
  fun connection =>
    match connection.ask peer statement with
    | (.ok _, connection) => (.ok (), { connection with isOpen := false })
    | (.error _, connection) => (.error .database, connection.abandon peer)

end Connection
end JarLedger
