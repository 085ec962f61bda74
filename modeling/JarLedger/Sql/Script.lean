import JarLedger.Sql.Migration
import JarLedger.Sql.Read
import JarLedger.Text.Search
import Std.Data.HashMap

/-!
# A server that follows a script

A peer without tables.  Its rules say how statements with certain words are answered; a statement
that no rule answers gets the answer of a server on which everything is new.
-/

namespace JarLedger

/-- How statements with certain words are answered. -/
structure ReplyRule where
  /-- The words. -/
  words : String
  /-- How many statements pass before the rule answers. -/
  skip : Nat := 0
  /-- How many statements the rule answers; all if none is given. -/
  times : Option Nat := none
  /-- The answer. -/
  answer : Except SqlFailure Reply
  /-- How many statements came to the rule. -/
  met : Nat := 0

namespace ReplyRule

/-- Whether the rule speaks about a statement. -/
def concerns (rule : ReplyRule) (text : String) : Bool := Text.contains text rule.words

/-- Whether the rule answers the next statement that it speaks about. -/
def isActive (rule : ReplyRule) : Bool :=
  rule.skip ≤ rule.met &&
    match rule.times with
    | none => true
    | some times => rule.met < rule.skip + times

end ReplyRule

/-- A server that follows a script. -/
structure ScriptedServer where
  rules : List ReplyRule
  /-- The numbers given to jars, by hash. -/
  jarIds : Std.HashMap String Nat := ∅
  /-- The number given last in each table. -/
  lastIds : List (String × Nat) := []

namespace ScriptedServer

/-- The first answer that a rule has for a statement, and the rules afterwards.  Rules behind the
one that answers do not meet the statement. -/
def consult (text : String) : List ReplyRule → Option (Except SqlFailure Reply) × List ReplyRule
  | [] => (none, [])
  | rule :: rules =>
      if rule.concerns text then
        let met := { rule with met := rule.met + 1 }
        if rule.isActive then (some rule.answer, met :: rules)
        else
          let (answer, rules) := consult text rules
          (answer, met :: rules)
      else
        let (answer, rules) := consult text rules
        (answer, rule :: rules)

/-- Number a jar; one met before keeps its number. -/
def numberJar (server : ScriptedServer) (hash : String) : Nat × ScriptedServer :=
  match server.jarIds[hash]? with
  | some id => (id, server)
  | none =>
      let id := server.jarIds.size + 1
      (id, { server with jarIds := server.jarIds.insert hash id })

/-- A row with the number and the hash of each jar, last first. -/
def jarRows (server : ScriptedServer) (hashes : List String) :
    List (List SqlValue) × ScriptedServer :=
  hashes.foldl
    (fun (past : List (List SqlValue) × ScriptedServer) hash =>
      let (id, server) := past.2.numberJar hash
      ([.int id, .text hash] :: past.1, server))
    ([], server)

/-- The next number of a table. -/
def nextId (server : ScriptedServer) (table : String) : Nat × ScriptedServer :=
  let id := ((server.lastIds.lookup table).getD 0) + 1
  let others := server.lastIds.filter fun entry => entry.1 ≠ table
  (id, { server with lastIds := (table, id) :: others })

/-- An answer of rows. -/
def rowsReply (rows : List (List SqlValue)) : Reply := { rows, affected := rows.length }

/-- The answer to an insert that no rule answers. -/
def answerInsert (server : ScriptedServer) (insert : Insert) : Reply × ScriptedServer :=
  if insert.clause.endsWith "RETURNING id, hash" then
    let hashes := insert.rows.filterMap fun (row : List SqlValue) => row.head?.bind SqlValue.text?
    let (rows, server) := server.jarRows hashes
    (rowsReply rows.reverse, server)
  else if insert.clause.endsWith "RETURNING id" then
    let (id, server) := server.nextId insert.table
    (rowsReply [[.int id]], server)
  else if insert.clause.endsWith "ON CONFLICT DO NOTHING" then
    ({ affected := insert.rows.length }, server)
  else ({ affected := 1 }, server)

/-- The answer to another statement that no rule answers. -/
def answerPlain (words : String) : Reply :=
  if words = Sql.countText then
    rowsReply [(List.range Sql.countedTables.length).map fun (place : Nat) => .int (place + 1)]
  else if words = Migration.databaseText then rowsReply [[.text "inventory"]]
  else if words.startsWith "SELECT" then {}
  else { affected := 1 }

/-- Answer a statement. -/
def answer : Peer ScriptedServer := fun statement server =>
  let (found, rules) := consult statement.text server.rules
  let server := { server with rules }
  match found, statement with
  | some answer, _ => (answer, server)
  | none, .insert insert =>
      let (reply, server) := server.answerInsert insert
      (.ok reply, server)
  | none, .plain words _ => (.ok (answerPlain words), server)

end ScriptedServer
end JarLedger
