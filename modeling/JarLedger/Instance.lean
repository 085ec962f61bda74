import JarLedger.Jar
import JarLedger.Json.Basic
import JarLedger.Time.Instant

/-!
# Instances

An instance is a running Java virtual machine, alone or as the base of an application server with
its configuration.  `AppServer.allJars` collects the jars found anywhere in the graph.
-/

namespace JarLedger

/-- What an instance is. -/
inductive InstanceKind where
  | jvm
  | appServer
  deriving DecidableEq, Repr

namespace InstanceKind

/-- All kinds in order. -/
def all : List InstanceKind := [.jvm, .appServer]

/-- Name of a kind. -/
def name : InstanceKind → String
  | .jvm => "jvm"
  | .appServer => "app_server"

/-- The kind of a name. -/
def ofName? (name : String) : Option InstanceKind := all.find? fun kind => kind.name = name

end InstanceKind

/-- A Java virtual machine as one snapshot describes it. -/
structure Jvm where
  /-- Identity across snapshots. -/
  linkingHash : String
  accountId : Option String
  orgId : String
  /-- When the description was announced. -/
  created : Instant
  hostname : String
  /-- Milliseconds since the start of 1970. -/
  launchTime : Int64
  vendor : Option String
  versionString : Option String
  version : Option String
  heapMin : Option Int64
  heapMax : Option Int64
  processors : Option Int32
  javaHome : Option String
  javaClassPath : Option String
  pid : Option Int64
  /-- The basic section of the snapshot as it came. -/
  details : Json
  /-- Jars on the machine itself. -/
  jars : JarSet

/-- A subsystem that an extension provides. -/
structure ExtensionSubsystem where
  name : String
  managementMajorVersion : Option Int32
  managementMinorVersion : Option Int32
  managementMicroVersion : Option Int32
  deriving DecidableEq, Repr

/-- An extension of an application server. -/
structure Extension where
  moduleName : String
  subsystems : List ExtensionSubsystem
  deriving DecidableEq, Repr

/-- Something deployed on an application server. -/
structure Deployment where
  name : String
  runtimeName : Option String
  enabled : Option Bool
  persistent : Option Bool
  /-- What is deployed, as it came. -/
  content : Json
  /-- Jars inside the deployed archive. -/
  jars : JarSet

/-- The scalar descriptors of a configuration. -/
structure Descriptors where
  version : Option String
  launchType : Option String
  name : Option String
  organization : Option String
  processType : Option String
  productName : Option String
  productVersion : Option String
  profileName : Option String
  releaseCodename : Option String
  releaseVersion : Option String
  runningMode : Option String
  runtimeConfigurationState : Option String
  serverState : Option String
  suspendState : Option String
  deriving DecidableEq, Repr

/-- Configuration of an application server. -/
structure Configuration where
  descriptors : Descriptors
  socketBindingGroups : Json
  paths : Json
  interfaces : Json
  deployments : List Deployment
  extensions : List Extension
  subsystems : SortedMap Json

/-- A virtual machine that runs an application server. -/
structure AppServer where
  jvm : Jvm
  serverVersion : Option String
  /-- Whether the extension pack is installed. -/
  xp : Bool
  yamlExtension : Option Bool
  bootableJar : Option Bool
  useGit : Option Bool
  configuration : Option Configuration
  moduleJars : JarSet
  /-- The snapshot exactly as it came. -/
  raw : String

/-- The deployments of a server; none without a configuration. -/
def AppServer.deployments (server : AppServer) : List Deployment :=
  match server.configuration with
  | none => []
  | some configuration => configuration.deployments

/-- Jars found anywhere in the graph: those of the machine, of the modules and of the deployments,
described as where they are found first. -/
def AppServer.allJars (server : AppServer) : JarSet :=
  server.deployments.foldl (fun jars deployment => jars.union deployment.jars)
    (server.jvm.jars.union server.moduleJars)

/-- An instance seen for the first time. -/
inductive Instance where
  | jvm (machine : Jvm)
  | appServer (server : AppServer)

namespace Instance

/-- The virtual machine of an instance. -/
def machine : Instance → Jvm
  | .jvm machine => machine
  | .appServer server => server.jvm

/-- Identity across snapshots. -/
def linkingHash (new : Instance) : String := new.machine.linkingHash

/-- What the instance is. -/
def kind : Instance → InstanceKind
  | .jvm _ => .jvm
  | .appServer _ => .appServer

/-- Jars found anywhere in the graph. -/
def allJars : Instance → JarSet
  | .jvm machine => machine.jars
  | .appServer server => server.allJars

/-- Version of the server, if there is one. -/
def serverVersion : Instance → Option String
  | .jvm _ => none
  | .appServer server => server.serverVersion

/-- Jars of the modules of the server. -/
def moduleJars : Instance → JarSet
  | .jvm _ => JarSet.empty
  | .appServer server => server.moduleJars

/-- The deployments of the server. -/
def deployments : Instance → List Deployment
  | .jvm _ => []
  | .appServer server => server.deployments

end Instance
end JarLedger
