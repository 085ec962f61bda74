import JarLedger.Sql.Connection
import JarLedger.Time.Rfc3339

/-!
# Reading instances back

Queries on stored instances, and what their answers stand for.  An answer of another form than asked
for counts as a failure of the database; a kind without meaning makes the store inconsistent.
-/

namespace JarLedger
namespace Sql

variable {σ : Type}

/-- Query for the row of an instance and the version of its server. -/
def summaryText : String :=
  "SELECT ri.id, ri.kind, ri.linking_hash, ri.org_id, ri.account_id, ri.created, ri.hostname, " ++
    "ri.launch_time, asi.server_version FROM runtime_instance ri " ++
    "LEFT JOIN app_server_instance asi ON asi.instance_id = ri.id WHERE ri.linking_hash = $1"

/-- Query for the hashes of the jars that a table links to an instance. -/
def linkedText (table : String) : String :=
  "SELECT jh.hash FROM " ++ table ++ " l JOIN jar_hash jh ON jh.id = l.jar_hash_id " ++
    "WHERE l.instance_id = $1"

/-- Query for the deployments of an instance, once for each of their jars. -/
def deploymentText : String :=
  "SELECT d.name, jh.hash FROM app_server_configuration c " ++
    "JOIN app_server_deployment d ON d.configuration_id = c.id " ++
    "LEFT JOIN app_server_deployment_jar_hash l ON l.deployment_id = d.id " ++
    "LEFT JOIN jar_hash jh ON jh.id = l.jar_hash_id WHERE c.instance_id = $1"

/-- Query for the instances with a linking hash, which it locks. -/
def lookupText : String :=
  "SELECT id, linking_hash, kind FROM runtime_instance WHERE linking_hash = $1 FOR UPDATE"

/-- Statement that removes the instances with a linking hash. -/
def deleteText : String := "DELETE FROM runtime_instance WHERE linking_hash = $1"

/-- The tables that are counted, in order. -/
def countedTables : List String :=
  ["runtime_instance", "app_server_instance", "app_server_configuration", "app_server_deployment",
    "app_server_extension", "app_server_extension_subsystem",
    "app_server_configuration_subsystem", "jar_hash", "instance_jar_hash",
    "app_server_module_jar_hash", "app_server_deployment_jar_hash"]

/-- Query for the numbers of rows. -/
def countText : String :=
  "SELECT " ++ ", ".intercalate (countedTables.map fun (table : String) =>
    "(SELECT COUNT(*) FROM " ++ table ++ ")")

/-- A text that may be absent. -/
def optionalText? : SqlValue → Option (Option String)
  | .null => some none
  | .text characters => some (some characters)
  | _ => none

/-- A time; servers may spell it out. -/
def time? : SqlValue → Option Instant
  | .time instant => some instant
  | .text characters => Instant.ofRfc3339? characters
  | _ => none

/-- The row of an instance, before anything is known about its kind. -/
structure Summary where
  id : Int
  kindName : String
  linkingHash : String
  orgId : String
  accountId : Option String
  created : Instant
  hostname : String
  launchTime : Int
  serverVersion : Option String

/-- Read the row of an instance. -/
def Summary.ofRow? : List SqlValue → Option Summary
  | [id, kind, linkingHash, orgId, accountId, created, hostname, launchTime, serverVersion] => do
      let id ← id.int?
      let kindName ← kind.text?
      let linkingHash ← linkingHash.text?
      let orgId ← orgId.text?
      let accountId ← optionalText? accountId
      let created ← time? created
      let hostname ← hostname.text?
      let launchTime ← launchTime.int?
      let serverVersion ← optionalText? serverVersion
      return {
        id, kindName, linkingHash, orgId, accountId, created, hostname, launchTime, serverVersion }
  | _ => none

/-- The kind of a name in a row. -/
def kindOf (name : String) : Except PersistenceError InstanceKind :=
  match InstanceKind.ofName? name with
  | some kind => .ok kind
  | none => .error (.inconsistent ("unknown instance kind " ++ name))

/-- A row of one text. -/
def hashOfRow? : List SqlValue → Option String
  | [hash] => hash.text?
  | _ => none

/-- A row of a deployment and one of its jars, or none. -/
def deploymentOfRow? : List SqlValue → Option (String × Option String)
  | [name, hash] => do
      let name ← name.text?
      let hash ← optionalText? hash
      return (name, hash)
  | _ => none

/-- Note a jar of a deployment. -/
def noteDeployment (deployments : SortedMap StringSet) (row : String × Option String) :
    SortedMap StringSet :=
  let known := (deployments.get? row.1).getD (StringSet.ofList [])
  deployments.insert row.1 (match row.2 with
    | some hash => known.insert hash
    | none => known)

/-- The hashes of the jars of each deployment. -/
def deploymentsOfRows (rows : List (String × Option String)) : SortedMap StringSet :=
  rows.foldl noteDeployment SortedMap.empty

/-- The stored instance that the rows stand for. -/
def storedOf (summary : Summary) (jars moduleJars : List String)
    (deployments : List (String × Option String)) : Except PersistenceError StoredInstance := do
  let kind ← kindOf summary.kindName
  return {
    id := summary.id
    kind
    linkingHash := summary.linkingHash
    orgId := summary.orgId
    accountId := summary.accountId
    created := summary.created
    hostname := summary.hostname
    launchTime := Int64.ofInt summary.launchTime
    serverVersion := summary.serverVersion
    jars := StringSet.ofList jars
    moduleJars := StringSet.ofList moduleJars
    deploymentJars := deploymentsOfRows deployments }

/-- Send a query with one value, and read the rows of the answer. -/
def queryRows (peer : Peer σ) (words : String) (value : SqlValue)
    (read : List SqlValue → Option α) : SqlWork σ (List α) := do
  let reply ← Connection.query peer (.plain words [value])
  Connection.expect (reply.rows.mapM read)

/-- Read an instance back; if several rows answer, the first counts. -/
def find (peer : Peer σ) (linkingHash : String) : SqlWork σ (Option StoredInstance) := do
  let reply ← Connection.query peer (.plain summaryText [.text linkingHash])
  match reply.rows.head? with
  | none => return none
  | some row =>
      let summary ← Connection.expect (Summary.ofRow? row)
      let id := SqlValue.int summary.id
      let jars ← queryRows peer (linkedText "instance_jar_hash") id hashOfRow?
      let moduleJars ← queryRows peer (linkedText "app_server_module_jar_hash") id hashOfRow?
      let deployments ← queryRows peer deploymentText id deploymentOfRow?
      match storedOf summary jars moduleJars deployments with
      | .ok stored => return some stored
      | .error cause => throw cause

/-- The number, the linking hash and the name of the kind in a row. -/
def instanceOfRow? : List SqlValue → Option (Int × String × String)
  | [id, linkingHash, kind] => do
      let id ← id.int?
      let linkingHash ← linkingHash.text?
      let kind ← kind.text?
      return (id, linkingHash, kind)
  | _ => none

/-- The instance in a row. -/
def rowOf (row : Int × String × String) : Except PersistenceError InstanceRow := do
  let kind ← kindOf row.2.2
  return ⟨row.1, row.2.1, kind⟩

/-- The stored instances with a linking hash. -/
def lookup (peer : Peer σ) (linkingHash : String) : SqlWork σ (List InstanceRow) := do
  let rows ← queryRows peer lookupText (.text linkingHash) instanceOfRow?
  match rows.mapM rowOf with
  | .ok instances => return instances
  | .error cause => throw cause

/-- Remove the instances with a linking hash; the answer is whether there were any. -/
def delete (peer : Peer σ) (linkingHash : String) : SqlWork σ Bool := do
  let reply ← Connection.query peer (.plain deleteText [.text linkingHash])
  return 0 < reply.affected

/-- The numbers of rows in the order of the counted tables. -/
def countsOf? : List Int → Option StoreCounts
  | [instances, appServerInstances, configurations, deployments, extensions, extensionSubsystems,
      configurationSubsystems, jarHashes, instanceJarHashes, moduleJarHashes,
      deploymentJarHashes] =>
      some {
        instances, appServerInstances, configurations, deployments, extensions,
        extensionSubsystems, configurationSubsystems, jarHashes, instanceJarHashes,
        moduleJarHashes, deploymentJarHashes }
  | _ => none

/-- The numbers of rows in the first row of an answer. -/
def countsOfReply? (reply : Reply) : Option StoreCounts := do
  let row ← reply.rows.head?
  countsOf? (← row.mapM SqlValue.int?)

/-- Count the rows. -/
def counts (peer : Peer σ) : SqlWork σ StoreCounts := do
  let reply ← Connection.query peer (.plain countText [])
  Connection.expect (countsOfReply? reply)

end Sql
end JarLedger
