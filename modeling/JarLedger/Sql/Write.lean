import JarLedger.Sql.Connection
import Std.Data.HashMap

/-!
# Writing instances

An instance is written as a graph of rows: its own row, a row for each jar of the whole graph, links
from the owners to their jars, and the rows of its server.  Rows that can be many are sent in as few
statements as the greatest number of values allows.
-/

namespace JarLedger

/-- The number of the row of each jar, by hash. -/
abbrev JarIds : Type := Std.HashMap String Int

namespace Sql

variable {σ : Type}

/-- A list cut into pieces of a size; the last may be shorter. -/
def chunks (size : Nat) : List α → List (List α)
  | [] => []
  | item :: rest => (item :: rest.take (size - 1)) :: chunks size (rest.drop (size - 1))
termination_by items => items.length
decreasing_by
  simp only [List.length_drop, List.length_cons]
  omega

/-- What makes an insert answer with the number of the new row. -/
def returningId : String := " RETURNING id"

/-- What makes the insert of jars answer for known ones too; those keep their names and versions
unless they had none. -/
def upsertClause : String :=
  " ON CONFLICT (hash) DO UPDATE SET name = COALESCE(jar_hash.name, EXCLUDED.name), " ++
    "version = COALESCE(jar_hash.version, EXCLUDED.version) RETURNING id, hash"

/-- What makes an insert pass over links that are there. -/
def keepClause : String := " ON CONFLICT DO NOTHING"

/-- A text that may be absent. -/
def optionalText (text : Option String) : SqlValue := .ofOption .text text

/-- A number of eight bytes that may be absent. -/
def optionalInt64 (number : Option Int64) : SqlValue :=
  .ofOption (fun (number : Int64) => .int number.toInt) number

/-- A number of four bytes that may be absent. -/
def optionalInt32 (number : Option Int32) : SqlValue :=
  .ofOption (fun (number : Int32) => .int number.toInt) number

/-- A flag that may be absent. -/
def optionalBool (flag : Option Bool) : SqlValue := .ofOption .bool flag

/-- The insert of the row of a virtual machine. -/
def machineInsert (kind : InstanceKind) (machine : Jvm) : Insert where
  table := "runtime_instance"
  columns := ["linking_hash", "kind", "account_id", "org_id", "created", "hostname", "launch_time",
    "vendor", "version_string", "version", "heap_min", "heap_max", "processors", "java_home",
    "java_class_path", "pid", "details"]
  rows := [[.text machine.linkingHash, .text kind.name, optionalText machine.accountId,
    .text machine.orgId, .time machine.created, .text machine.hostname,
    .int machine.launchTime.toInt, optionalText machine.vendor, optionalText machine.versionString,
    optionalText machine.version, optionalInt64 machine.heapMin, optionalInt64 machine.heapMax,
    optionalInt32 machine.processors, optionalText machine.javaHome,
    optionalText machine.javaClassPath, optionalInt64 machine.pid, .json machine.details]]
  clause := returningId

/-- The insert of the rows of jars. -/
def jarInsert (jars : List Jar) : Insert where
  table := "jar_hash"
  columns := ["hash", "name", "version"]
  rows := jars.map fun (jar : Jar) =>
    [.text jar.hash, optionalText jar.label.name, optionalText jar.label.version]
  clause := upsertClause

/-- The insert of links from an owner to jars. -/
def linkInsert (table ownerColumn : String) (owner : Int) (jars : List Int) : Insert where
  table
  columns := [ownerColumn, "jar_hash_id"]
  rows := jars.map fun (jar : Int) => [.int owner, .int jar]
  clause := keepClause

/-- The insert of the row of a server. -/
def serverInsert (instanceId : Int) (server : AppServer) : Insert where
  table := "app_server_instance"
  columns := ["instance_id", "server_version", "xp", "yaml_extension", "bootable_jar", "use_git",
    "raw"]
  rows := [[.int instanceId, optionalText server.serverVersion, .bool server.xp,
    optionalBool server.yamlExtension, optionalBool server.bootableJar, optionalBool server.useGit,
    .text server.raw]]

/-- The insert of the row of a configuration. -/
def configurationInsert (instanceId : Int) (configuration : Configuration) : Insert where
  table := "app_server_configuration"
  columns := ["instance_id", "version", "launch_type", "name", "organization", "process_type",
    "product_name", "product_version", "profile_name", "release_codename", "release_version",
    "running_mode", "runtime_configuration_state", "server_state", "suspend_state",
    "socket_binding_groups", "paths", "interfaces"]
  rows :=
    let descriptors := configuration.descriptors
    [[.int instanceId, optionalText descriptors.version, optionalText descriptors.launchType,
      optionalText descriptors.name, optionalText descriptors.organization,
      optionalText descriptors.processType, optionalText descriptors.productName,
      optionalText descriptors.productVersion, optionalText descriptors.profileName,
      optionalText descriptors.releaseCodename, optionalText descriptors.releaseVersion,
      optionalText descriptors.runningMode, optionalText descriptors.runtimeConfigurationState,
      optionalText descriptors.serverState, optionalText descriptors.suspendState,
      .json configuration.socketBindingGroups, .json configuration.paths,
      .json configuration.interfaces]]
  clause := returningId

/-- The insert of the row of a deployment. -/
def deploymentInsert (configurationId : Int) (deployment : Deployment) : Insert where
  table := "app_server_deployment"
  columns := ["configuration_id", "name", "runtime_name", "enabled", "persistent", "content"]
  rows := [[.int configurationId, .text deployment.name, optionalText deployment.runtimeName,
    optionalBool deployment.enabled, optionalBool deployment.persistent, .json deployment.content]]
  clause := returningId

/-- The insert of the row of an extension. -/
def extensionInsert (configurationId : Int) (extension : Extension) : Insert where
  table := "app_server_extension"
  columns := ["configuration_id", "module"]
  rows := [[.int configurationId, .text extension.moduleName]]
  clause := returningId

/-- The insert of the rows of the subsystems of an extension. -/
def extensionSubsystemInsert (extensionId : Int) (subsystems : List ExtensionSubsystem) :
    Insert where
  table := "app_server_extension_subsystem"
  columns := ["extension_id", "name", "management_major_version", "management_minor_version",
    "management_micro_version"]
  rows := subsystems.map fun (subsystem : ExtensionSubsystem) =>
    [.int extensionId, .text subsystem.name, optionalInt32 subsystem.managementMajorVersion,
      optionalInt32 subsystem.managementMinorVersion,
      optionalInt32 subsystem.managementMicroVersion]

/-- The insert of the rows of the subsystems of a configuration. -/
def subsystemInsert (configurationId : Int) (subsystems : List (String × Json)) : Insert where
  table := "app_server_configuration_subsystem"
  columns := ["configuration_id", "name", "settings"]
  rows := subsystems.map fun (subsystem : String × Json) =>
    [.int configurationId, .text subsystem.1, .json subsystem.2]

/-- Send an insert. -/
def insert (peer : Peer σ) (rows : Insert) : SqlWork σ Reply :=
  Connection.query peer (.insert rows)

/-- Send an insert that answers with the number of its row. -/
def insertForId (peer : Peer σ) (rows : Insert) : SqlWork σ Int := do
  let reply ← insert peer rows
  Connection.expect (Connection.firstNumber? reply)

/-- Send the insert of a virtual machine.  A taken key is the linking hash. -/
def insertMachine (peer : Peer σ) (kind : InstanceKind) (machine : Jvm) : SqlWork σ Int :=
  fun connection =>
    match connection.ask peer (.insert (machineInsert kind machine)) with
    | (.ok reply, connection) => Connection.expect (Connection.firstNumber? reply) connection
    | (.error failure, connection) =>
        let cause : PersistenceError :=
          if failure.isUniqueViolation then .uniqueViolation machine.linkingHash else .database
        (.error cause, connection)

/-- The number and the hash in a row of an answer. -/
def jarRow? : List SqlValue → Option (String × Int)
  | [id, hash] => do
      let id ← id.int?
      let hash ← hash.text?
      return (hash, id)
  | _ => none

/-- Write the rows of some jars, and take their numbers. -/
def upsertChunk (peer : Peer σ) (jars : List Jar) : SqlWork σ (List (String × Int)) := do
  let reply ← insert peer (jarInsert jars)
  Connection.expect (reply.rows.mapM jarRow?)

/-- Write the rows of all jars of a set, and take their numbers. -/
def upsertJars (peer : Peer σ) (jars : JarSet) : SqlWork σ JarIds := do
  let numbered ← (chunks (bindLimit / 3) jars.toList).mapM (upsertChunk peer)
  return (∅ : JarIds).insertMany numbered.flatten

/-- The numbers of the jars of a set; all of them have to be known. -/
def idsOf (ids : JarIds) (jars : JarSet) : Except PersistenceError (List Int) :=
  jars.keys.mapM fun (hash : String) =>
    match ids[hash]? with
    | some id => .ok id
    | none => .error (.inconsistent ("jar hash " ++ hash ++ " was not upserted"))

/-- Link an owner to jars; the answer is how many links are new. -/
def link (peer : Peer σ) (table ownerColumn : String) (owner : Int) (jars : List Int) :
    SqlWork σ Nat := do
  let replies ← (chunks (bindLimit / 2) jars).mapM fun (chunk : List Int) =>
    insert peer (linkInsert table ownerColumn owner chunk)
  return (replies.map Reply.affected).foldr (· + ·) 0

/-- Link an owner to the jars of a set. -/
def linkSet (peer : Peer σ) (table ownerColumn : String) (owner : Int) (ids : JarIds)
    (jars : JarSet) : SqlWork σ Nat :=
  match idsOf ids jars with
  | .ok numbers => link peer table ownerColumn owner numbers
  | .error cause => throw cause

/-- Write a deployment and its links. -/
def writeDeployment (peer : Peer σ) (ids : JarIds) (configurationId : Int)
    (deployment : Deployment) : SqlWork σ Unit := do
  let id ← insertForId peer (deploymentInsert configurationId deployment)
  discard (linkSet peer "app_server_deployment_jar_hash" "deployment_id" id ids deployment.jars)

/-- Write an extension and its subsystems. -/
def writeExtension (peer : Peer σ) (configurationId : Int) (extension : Extension) :
    SqlWork σ Unit := do
  let id ← insertForId peer (extensionInsert configurationId extension)
  if extension.subsystems.isEmpty then pure ()
  else discard (insert peer (extensionSubsystemInsert id extension.subsystems))

/-- Write a configuration with all that belongs to it. -/
def writeConfiguration (peer : Peer σ) (ids : JarIds) (instanceId : Int)
    (configuration : Configuration) : SqlWork σ Unit := do
  let id ← insertForId peer (configurationInsert instanceId configuration)
  configuration.deployments.forM (writeDeployment peer ids id)
  configuration.extensions.forM (writeExtension peer id)
  if configuration.subsystems.entries.isEmpty then pure ()
  else discard (insert peer (subsystemInsert id configuration.subsystems.entries))

/-- Write a server with all that belongs to it. -/
def writeServer (peer : Peer σ) (ids : JarIds) (instanceId : Int) (server : AppServer) :
    SqlWork σ Unit := do
  discard (insert peer (serverInsert instanceId server))
  discard (linkSet peer "app_server_module_jar_hash" "instance_id" instanceId ids
    server.moduleJars)
  match server.configuration with
  | none => pure ()
  | some configuration => writeConfiguration peer ids instanceId configuration

/-- Write an instance with all that belongs to it.  The jars of the whole graph are written at once,
so that a jar found in several places has one row. -/
def writeInstance (peer : Peer σ) (new : Instance) : SqlWork σ Int := do
  let id ← insertMachine peer new.kind new.machine
  let ids ← upsertJars peer new.allJars
  discard (linkSet peer "instance_jar_hash" "instance_id" id ids new.machine.jars)
  match new with
  | .jvm _ => pure ()
  | .appServer server => writeServer peer ids id server
  return id

/-- Add jars to a stored instance; the answer is how many are new. -/
def addJars (peer : Peer σ) (instanceId : Int) (jars : JarSet) : SqlWork σ Nat := do
  let ids ← upsertJars peer jars
  linkSet peer "instance_jar_hash" "instance_id" instanceId ids jars

end Sql
end JarLedger
