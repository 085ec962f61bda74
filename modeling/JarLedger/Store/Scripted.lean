import JarLedger.Store.Basic

/-!
# A store that follows a script

A store without memory: it answers as its script says and keeps a log of what it is asked.
-/

namespace JarLedger

/-- A request within the life of a transaction. -/
inductive Call where
  | begin
  | insert (linkingHash : String)
  | lookup (linkingHash : String)
  | add (id : InstanceId) (hashes : List String)
  | commit
  | rollback
  deriving DecidableEq, Repr

namespace Call

/-- Name of a request. -/
def name : Call → String
  | .begin => "begin"
  | .insert _ => "insert"
  | .lookup _ => "lookup"
  | .add _ _ => "add"
  | .commit => "commit"
  | .rollback => "rollback"

/-- A request in one line. -/
def text : Call → String
  | .insert linkingHash => "insert " ++ linkingHash
  | .lookup linkingHash => "lookup " ++ linkingHash
  | .add id hashes => "add " ++ toString id ++ " " ++ String.intercalate "," hashes
  | call => call.name

end Call

/-- A script, and the requests so far, the last one first. -/
structure ScriptedStore where
  /-- Numbers of the instances that a look-up finds; the first one is given to a new instance. -/
  rows : List InstanceId
  /-- How many jars are new. -/
  added : Nat
  /-- Names of the requests that fail. -/
  failing : List String
  /-- The requests, last first. -/
  calls : List Call := []

namespace ScriptedStore

/-- Answer a request, unless it fails. -/
def answer (call : Call) (value : ScriptedStore → α) : Request ScriptedStore α
  | script =>
      let script := { script with calls := call :: script.calls }
      if script.failing.contains call.name then
        (.error (.inconsistent (call.name ++ " failed")), script)
      else (.ok (value script), script)

/-- The store that follows a script. -/
def store : Store ScriptedStore where
  begin := answer .begin fun _ => ()
  insert new := answer (.insert new.linkingHash) fun script => script.rows.headD 0
  lookup linkingHash :=
    answer (.lookup linkingHash) fun script =>
      script.rows.map fun id => ⟨id, linkingHash, .jvm⟩
  add id jars := answer (.add id jars.keys) fun script => script.added
  commit := answer .commit fun _ => ()
  rollback := answer .rollback fun _ => ()
  abandon := id
  find _ script := (.ok none, script)
  delete _ script := (.ok false, script)
  counts script := (.ok {}, script)

end ScriptedStore
end JarLedger
