import JarLedger.Failure

/-!
# Stores

A store keeps instances and hands out transactions.  `Store` lists what can be asked of one; each
request takes the state of the store to an answer and the next state, also where it fails.
-/

namespace JarLedger

/-- Number of a stored instance. -/
abbrev InstanceId : Type := Int

/-- A stored instance as a transaction sees it. -/
structure InstanceRow where
  id : InstanceId
  linkingHash : String
  kind : InstanceKind
  deriving DecidableEq, Repr

/-- A stored instance as it is read back, with the hashes of its jars. -/
structure StoredInstance where
  id : InstanceId
  kind : InstanceKind
  linkingHash : String
  orgId : String
  accountId : Option String
  created : Instant
  hostname : String
  launchTime : Int64
  serverVersion : Option String
  jars : StringSet
  moduleJars : StringSet
  /-- Hashes of the jars of a deployment, by the deployment's name. -/
  deploymentJars : SortedMap StringSet

/-- How many rows of each sort there are. -/
structure StoreCounts where
  instances : Int := 0
  appServerInstances : Int := 0
  configurations : Int := 0
  deployments : Int := 0
  extensions : Int := 0
  extensionSubsystems : Int := 0
  configurationSubsystems : Int := 0
  jarHashes : Int := 0
  instanceJarHashes : Int := 0
  moduleJarHashes : Int := 0
  deploymentJarHashes : Int := 0
  deriving DecidableEq, Repr, Inhabited

/-- Counts as a record. -/
def StoreCounts.toJson (counts : StoreCounts) : Json :=
  .ofMembers [
    ("instances", .int counts.instances),
    ("app_server_instances", .int counts.appServerInstances),
    ("configurations", .int counts.configurations),
    ("deployments", .int counts.deployments),
    ("extensions", .int counts.extensions),
    ("extension_subsystems", .int counts.extensionSubsystems),
    ("configuration_subsystems", .int counts.configurationSubsystems),
    ("jar_hashes", .int counts.jarHashes),
    ("instance_jar_hashes", .int counts.instanceJarHashes),
    ("module_jar_hashes", .int counts.moduleJarHashes),
    ("deployment_jar_hashes", .int counts.deploymentJarHashes)]

/-- A request to a store with states `σ`. -/
abbrev Request (σ α : Type) : Type := σ → Except PersistenceError α × σ

/-- What can be asked of a store. -/
structure Store (σ : Type) where
  /-- Open a transaction. -/
  begin : Request σ Unit
  /-- Write a new instance in the transaction; its linking hash must not be stored yet. -/
  insert : Instance → Request σ InstanceId
  /-- The stored instances with a linking hash, as the transaction sees them. -/
  lookup : String → Request σ (List InstanceRow)
  /-- Add jars to an instance in the transaction; the answer is how many are new. -/
  add : InstanceId → JarSet → Request σ Nat
  /-- Make the work of the transaction last, and end it. -/
  commit : Request σ Unit
  /-- Undo the work of the transaction, and end it. -/
  rollback : Request σ Unit
  /-- Leave the transaction without either. -/
  abandon : σ → σ
  /-- Read an instance back, outside the transaction. -/
  find : String → Request σ (Option StoredInstance)
  /-- Remove an instance, outside the transaction; the answer is whether there was one. -/
  delete : String → Request σ Bool
  /-- Count the rows, outside the transaction. -/
  counts : Request σ StoreCounts

end JarLedger
