import JarLedger.Json.Record
import JarLedger.Message
import JarLedger.Time.Rfc3339

/-!
# Messages and announcements as records

The JSON form of announcements and messages, and its reading.  A message is an object whose one
member names the shape.  A set of jars is an array; of equal hashes the first one is read.
-/

namespace JarLedger

/-- The point in time that a timestamp names. -/
def Instant.ofJson? (value : Json) : Option Instant := value.string?.bind Instant.ofLooseText?

/-- An instant as its timestamp. -/
def Instant.toJson (instant : Instant) : Json := .string instant.toRfc3339

open Json.Record (required optional)

namespace Announcement

/-- Names of the fields. -/
def fieldNames : List String :=
  ["account_id", "org_id", "content_type", "url", "timestamp", "request_id", "is_runtimes"]

/-- An announcement as a record. -/
def toJson (announcement : Announcement) : Json :=
  .object [
    ("account_id", .ofOption .string announcement.accountId),
    ("org_id", .string announcement.orgId),
    ("content_type", .string announcement.contentType),
    ("url", .ofOption .string announcement.url),
    ("timestamp", announcement.timestamp.toJson),
    ("request_id", .ofOption .string announcement.requestId),
    ("is_runtimes", .bool announcement.isRuntimes)]

/-- The announcement of a record. -/
def ofJson? (value : Json) : Option Announcement := do
  let fields ← Json.Record.fields? fieldNames value
  return {
    accountId := ← optional fields "account_id" Json.string?
    orgId := ← required fields "org_id" Json.string?
    contentType := ← required fields "content_type" Json.string?
    url := ← optional fields "url" Json.string?
    timestamp := ← required fields "timestamp" Instant.ofJson?
    requestId := ← optional fields "request_id" Json.string?
    isRuntimes := ← required fields "is_runtimes" Json.bool? }

end Announcement

/-- A jar as a record. -/
def Jar.toJson (jar : Jar) : Json :=
  .object [
    ("hash", .string jar.hash),
    ("name", .ofOption .string jar.label.name),
    ("version", .ofOption .string jar.label.version)]

/-- The jar of a record. -/
def Jar.ofJson? (value : Json) : Option Jar := do
  let fields ← Json.Record.fields? ["hash", "name", "version"] value
  return {
    hash := ← required fields "hash" Json.string?
    label := {
      name := ← optional fields "name" Json.string?
      version := ← optional fields "version" Json.string? } }

/-- A set of jars as an array in ascending order. -/
def JarSet.toJson (jars : JarSet) : Json := .array (jars.toList.map Jar.toJson)

/-- The set of jars of an array. -/
def JarSet.ofJson? (value : Json) : Option JarSet :=
  (Json.Record.list? Jar.ofJson? value).map JarSet.ofList

namespace Jvm

/-- Names of the fields. -/
def fieldNames : List String :=
  ["linking_hash", "account_id", "org_id", "created", "hostname", "launch_time", "vendor",
    "version_string", "version", "heap_min", "heap_max", "processors", "java_home",
    "java_class_path", "pid", "details", "jar_hashes"]

/-- A virtual machine as a record. -/
def toJson (machine : Jvm) : Json :=
  .object [
    ("linking_hash", .string machine.linkingHash),
    ("account_id", .ofOption .string machine.accountId),
    ("org_id", .string machine.orgId),
    ("created", machine.created.toJson),
    ("hostname", .string machine.hostname),
    ("launch_time", .ofInt64 machine.launchTime),
    ("vendor", .ofOption .string machine.vendor),
    ("version_string", .ofOption .string machine.versionString),
    ("version", .ofOption .string machine.version),
    ("heap_min", .ofOption .ofInt64 machine.heapMin),
    ("heap_max", .ofOption .ofInt64 machine.heapMax),
    ("processors", .ofOption .ofInt32 machine.processors),
    ("java_home", .ofOption .string machine.javaHome),
    ("java_class_path", .ofOption .string machine.javaClassPath),
    ("pid", .ofOption .ofInt64 machine.pid),
    ("details", machine.details),
    ("jar_hashes", machine.jars.toJson)]

/-- The virtual machine of a record. -/
def ofJson? (value : Json) : Option Jvm := do
  let fields ← Json.Record.fields? fieldNames value
  return {
    linkingHash := ← required fields "linking_hash" Json.string?
    accountId := ← optional fields "account_id" Json.string?
    orgId := ← required fields "org_id" Json.string?
    created := ← required fields "created" Instant.ofJson?
    hostname := ← required fields "hostname" Json.string?
    launchTime := ← required fields "launch_time" Json.int64?
    vendor := ← optional fields "vendor" Json.string?
    versionString := ← optional fields "version_string" Json.string?
    version := ← optional fields "version" Json.string?
    heapMin := ← optional fields "heap_min" Json.int64?
    heapMax := ← optional fields "heap_max" Json.int64?
    processors := ← optional fields "processors" Json.int32?
    javaHome := ← optional fields "java_home" Json.string?
    javaClassPath := ← optional fields "java_class_path" Json.string?
    pid := ← optional fields "pid" Json.int64?
    details := ← required fields "details" some
    jars := ← required fields "jar_hashes" JarSet.ofJson? }

end Jvm

namespace ExtensionSubsystem

/-- Names of the fields. -/
def fieldNames : List String :=
  ["name", "management_major_version", "management_minor_version", "management_micro_version"]

/-- A subsystem of an extension as a record. -/
def toJson (subsystem : ExtensionSubsystem) : Json :=
  .object [
    ("name", .string subsystem.name),
    ("management_major_version", .ofOption .ofInt32 subsystem.managementMajorVersion),
    ("management_minor_version", .ofOption .ofInt32 subsystem.managementMinorVersion),
    ("management_micro_version", .ofOption .ofInt32 subsystem.managementMicroVersion)]

/-- The subsystem of a record. -/
def ofJson? (value : Json) : Option ExtensionSubsystem := do
  let fields ← Json.Record.fields? fieldNames value
  return {
    name := ← required fields "name" Json.string?
    managementMajorVersion := ← optional fields "management_major_version" Json.int32?
    managementMinorVersion := ← optional fields "management_minor_version" Json.int32?
    managementMicroVersion := ← optional fields "management_micro_version" Json.int32? }

end ExtensionSubsystem

namespace Extension

/-- An extension as a record. -/
def toJson (extended : Extension) : Json :=
  .object [
    ("module", .string extended.moduleName),
    ("subsystems", .array (extended.subsystems.map ExtensionSubsystem.toJson))]

/-- The extension of a record. -/
def ofJson? (value : Json) : Option Extension := do
  let fields ← Json.Record.fields? ["module", "subsystems"] value
  return {
    moduleName := ← required fields "module" Json.string?
    subsystems := ← required fields "subsystems" (Json.Record.list? ExtensionSubsystem.ofJson?) }

end Extension

namespace Deployment

/-- Names of the fields. -/
def fieldNames : List String :=
  ["name", "runtime_name", "enabled", "persistent", "content", "archive_jar_hashes"]

/-- A deployment as a record. -/
def toJson (deployment : Deployment) : Json :=
  .object [
    ("name", .string deployment.name),
    ("runtime_name", .ofOption .string deployment.runtimeName),
    ("enabled", .ofOption .bool deployment.enabled),
    ("persistent", .ofOption .bool deployment.persistent),
    ("content", deployment.content),
    ("archive_jar_hashes", deployment.jars.toJson)]

/-- The deployment of a record. -/
def ofJson? (value : Json) : Option Deployment := do
  let fields ← Json.Record.fields? fieldNames value
  return {
    name := ← required fields "name" Json.string?
    runtimeName := ← optional fields "runtime_name" Json.string?
    enabled := ← optional fields "enabled" Json.bool?
    persistent := ← optional fields "persistent" Json.bool?
    content := ← required fields "content" some
    jars := ← required fields "archive_jar_hashes" JarSet.ofJson? }

end Deployment

namespace Configuration

/-- Names of the fields. -/
def fieldNames : List String :=
  ["version", "launch_type", "name", "organization", "process_type", "product_name",
    "product_version", "profile_name", "release_codename", "release_version", "running_mode",
    "runtime_configuration_state", "server_state", "suspend_state", "socket_binding_groups",
    "paths", "interfaces", "deployments", "extensions", "subsystems"]

/-- A configuration as a record. -/
def toJson (configuration : Configuration) : Json :=
  let descriptors := configuration.descriptors
  .object [
    ("version", .ofOption .string descriptors.version),
    ("launch_type", .ofOption .string descriptors.launchType),
    ("name", .ofOption .string descriptors.name),
    ("organization", .ofOption .string descriptors.organization),
    ("process_type", .ofOption .string descriptors.processType),
    ("product_name", .ofOption .string descriptors.productName),
    ("product_version", .ofOption .string descriptors.productVersion),
    ("profile_name", .ofOption .string descriptors.profileName),
    ("release_codename", .ofOption .string descriptors.releaseCodename),
    ("release_version", .ofOption .string descriptors.releaseVersion),
    ("running_mode", .ofOption .string descriptors.runningMode),
    ("runtime_configuration_state", .ofOption .string descriptors.runtimeConfigurationState),
    ("server_state", .ofOption .string descriptors.serverState),
    ("suspend_state", .ofOption .string descriptors.suspendState),
    ("socket_binding_groups", configuration.socketBindingGroups),
    ("paths", configuration.paths),
    ("interfaces", configuration.interfaces),
    ("deployments", .array (configuration.deployments.map Deployment.toJson)),
    ("extensions", .array (configuration.extensions.map Extension.toJson)),
    ("subsystems", .object configuration.subsystems.entries)]

/-- The configuration of a record. -/
def ofJson? (value : Json) : Option Configuration := do
  let fields ← Json.Record.fields? fieldNames value
  let text (name : String) := optional fields name Json.string?
  let descriptors : Descriptors := {
    version := ← text "version"
    launchType := ← text "launch_type"
    name := ← text "name"
    organization := ← text "organization"
    processType := ← text "process_type"
    productName := ← text "product_name"
    productVersion := ← text "product_version"
    profileName := ← text "profile_name"
    releaseCodename := ← text "release_codename"
    releaseVersion := ← text "release_version"
    runningMode := ← text "running_mode"
    runtimeConfigurationState := ← text "runtime_configuration_state"
    serverState := ← text "server_state"
    suspendState := ← text "suspend_state" }
  return {
    descriptors
    socketBindingGroups := ← required fields "socket_binding_groups" some
    paths := ← required fields "paths" some
    interfaces := ← required fields "interfaces" some
    deployments := ← required fields "deployments" (Json.Record.list? Deployment.ofJson?)
    extensions := ← required fields "extensions" (Json.Record.list? Extension.ofJson?)
    subsystems := SortedMap.ofListLast (← required fields "subsystems" Json.members?) }

end Configuration

namespace AppServer

/-- Names of the fields. -/
def fieldNames : List String :=
  ["jvm", "server_version", "xp", "yaml_extension", "bootable_jar", "use_git", "configuration",
    "module_jar_hashes", "raw"]

/-- An application server as a record. -/
def toJson (server : AppServer) : Json :=
  .object [
    ("jvm", server.jvm.toJson),
    ("server_version", .ofOption .string server.serverVersion),
    ("xp", .bool server.xp),
    ("yaml_extension", .ofOption .bool server.yamlExtension),
    ("bootable_jar", .ofOption .bool server.bootableJar),
    ("use_git", .ofOption .bool server.useGit),
    ("configuration", .ofOption Configuration.toJson server.configuration),
    ("module_jar_hashes", server.moduleJars.toJson),
    ("raw", .string server.raw)]

/-- The application server of a record. -/
def ofJson? (value : Json) : Option AppServer := do
  let fields ← Json.Record.fields? fieldNames value
  return {
    jvm := ← required fields "jvm" Jvm.ofJson?
    serverVersion := ← optional fields "server_version" Json.string?
    xp := ← required fields "xp" Json.bool?
    yamlExtension := ← optional fields "yaml_extension" Json.bool?
    bootableJar := ← optional fields "bootable_jar" Json.bool?
    useGit := ← optional fields "use_git" Json.bool?
    configuration := ← optional fields "configuration" Configuration.ofJson?
    moduleJars := ← required fields "module_jar_hashes" JarSet.ofJson?
    raw := ← required fields "raw" Json.string? }

end AppServer

namespace Instance

/-- An instance as an object that names its kind. -/
def toJson : Instance → Json
  | .jvm machine => .object [("Jvm", machine.toJson)]
  | .appServer server => .object [("AppServer", server.toJson)]

/-- The instance of an object that names its kind. -/
def ofJson? (value : Json) : Option Instance := do
  match ← Json.Record.variant? value with
  | ("Jvm", content) => (Jvm.ofJson? content).map .jvm
  | ("AppServer", content) => (AppServer.ofJson? content).map .appServer
  | _ => none

end Instance

namespace Delta

/-- A delta as a record. -/
def toJson (delta : Delta) : Json :=
  .object [("linking_hash", .string delta.linkingHash), ("jar_hashes", delta.jars.toJson)]

/-- The delta of a record. -/
def ofJson? (value : Json) : Option Delta := do
  let fields ← Json.Record.fields? ["linking_hash", "jar_hashes"] value
  return {
    linkingHash := ← required fields "linking_hash" Json.string?
    jars := ← required fields "jar_hashes" JarSet.ofJson? }

end Delta

namespace Message

/-- A message as an object that names its shape. -/
def toJson : Message → Json
  | .newInstance new => .object [("NewInstance", new.toJson)]
  | .update delta => .object [("UpdateInstance", delta.toJson)]

/-- The message of an object that names its shape. -/
def ofJson? (value : Json) : Option Message := do
  match ← Json.Record.variant? value with
  | ("NewInstance", content) => (Instance.ofJson? content).map .newInstance
  | ("UpdateInstance", content) => (Delta.ofJson? content).map .update
  | _ => none

end Message
end JarLedger
