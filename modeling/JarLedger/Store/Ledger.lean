import JarLedger.Store.Basic

/-!
# The ledger

A ledger holds instances under numbers that are never given twice, an index of their linking hashes,
and the jars ever seen.  Its operations are functions from one ledger to the next.
-/

namespace JarLedger

/-- An instance in a ledger. -/
structure LedgerEntry where
  /-- The instance as it was inserted. -/
  inserted : Instance
  /-- Hashes of the jars on the machine itself; the only part that updates change. -/
  jars : StringSet

/-- A ledger of instances and jars. -/
structure Ledger where
  /-- The number given last. -/
  lastId : InstanceId := 0
  /-- The instances by number, in the order in which they were inserted. -/
  entries : List (InstanceId × LedgerEntry) := []
  /-- The number of the instance with a linking hash. -/
  byLinkingHash : SortedMap InstanceId := SortedMap.empty
  /-- The jars ever seen, described as they were first. -/
  jars : JarSet := JarSet.empty

namespace Ledger

/-- The instance under a number. -/
def entry? (ledger : Ledger) (id : InstanceId) : Option LedgerEntry := ledger.entries.lookup id

/-- Take note of jars; those known keep their descriptions. -/
def remember (ledger : Ledger) (jars : JarSet) : Ledger :=
  { ledger with jars := ledger.jars.union jars }

/-- Insert an instance under the next number. -/
def insert (ledger : Ledger) (new : Instance) : Except PersistenceError InstanceId × Ledger :=
  if ledger.byLinkingHash.contains new.linkingHash then
    (.error (.uniqueViolation new.linkingHash), ledger)
  else
    let ledger := ledger.remember new.allJars
    let id := ledger.lastId + 1
    (.ok id,
      { ledger with
        lastId := id
        entries := ledger.entries ++ [(id, ⟨new, new.machine.jars.hashes⟩)]
        byLinkingHash := ledger.byLinkingHash.insert new.linkingHash id })

/-- The instances with a linking hash. -/
def lookup (ledger : Ledger) (linkingHash : String) : List InstanceRow :=
  match ledger.byLinkingHash.get? linkingHash with
  | none => []
  | some id =>
      match ledger.entry? id with
      | none => []
      | some entry => [⟨id, linkingHash, entry.inserted.kind⟩]

/-- Hashes of a set of jars that are not among others. -/
def newHashes (present : StringSet) (jars : JarSet) : List String :=
  jars.keys.filter fun hash => !present.contains hash

/-- Put other hashes in the place of an instance's own. -/
def setJars (entries : List (InstanceId × LedgerEntry)) (id : InstanceId) (jars : StringSet) :
    List (InstanceId × LedgerEntry) :=
  entries.map fun entry => if entry.1 = id then (id, { entry.2 with jars }) else entry

/-- Add jars to an instance, and count those that are new to it.  The jars are noted even if there
is no such instance. -/
def add (ledger : Ledger) (id : InstanceId) (jars : JarSet) :
    Except PersistenceError Nat × Ledger :=
  let ledger := ledger.remember jars
  match ledger.entry? id with
  | none => (.error (.inconsistent ("no instance with id " ++ toString id)), ledger)
  | some entry =>
      (.ok (newHashes entry.jars jars).length,
        { ledger with entries := setJars ledger.entries id (entry.jars.union jars.hashes) })

/-- What is read back of an instance. -/
def view (id : InstanceId) (entry : LedgerEntry) : StoredInstance :=
  let machine := entry.inserted.machine
  { id
    kind := entry.inserted.kind
    linkingHash := machine.linkingHash
    orgId := machine.orgId
    accountId := machine.accountId
    created := machine.created
    hostname := machine.hostname
    launchTime := machine.launchTime
    serverVersion := entry.inserted.serverVersion
    jars := entry.jars
    moduleJars := entry.inserted.moduleJars.hashes
    deploymentJars := SortedMap.ofListLast
      (entry.inserted.deployments.map fun deployment => (deployment.name, deployment.jars.hashes)) }

/-- Read an instance back. -/
def find (ledger : Ledger) (linkingHash : String) :
    Except PersistenceError (Option StoredInstance) :=
  match ledger.byLinkingHash.get? linkingHash with
  | none => .ok none
  | some id =>
      match ledger.entry? id with
      | none =>
          .error (.inconsistent ("linking hash " ++ linkingHash ++ " points at missing instance " ++
            toString id))
      | some entry => .ok (some (view id entry))

/-- Remove an instance; the jars ever seen stay. -/
def delete (ledger : Ledger) (linkingHash : String) : Bool × Ledger :=
  match ledger.byLinkingHash.get? linkingHash with
  | none => (false, ledger)
  | some id =>
      ((ledger.entry? id).isSome,
        { ledger with
          entries := ledger.entries.filter fun entry => entry.1 ≠ id
          byLinkingHash := ledger.byLinkingHash.erase linkingHash })

/-- The rows that one instance stands for, without its jars ever seen. -/
def countsOf (entry : LedgerEntry) : StoreCounts :=
  let own : StoreCounts := { instances := 1, instanceJarHashes := entry.jars.size }
  match entry.inserted with
  | .jvm _ => own
  | .appServer server =>
      let own := { own with appServerInstances := 1, moduleJarHashes := server.moduleJars.size }
      match server.configuration with
      | none => own
      | some configuration =>
          { own with
            configurations := 1
            deployments := configuration.deployments.length
            deploymentJarHashes :=
              configuration.deployments.foldr
                (fun deployment total => deployment.jars.size + total) 0
            extensions := configuration.extensions.length
            extensionSubsystems :=
              configuration.extensions.foldr
                (fun extended total => extended.subsystems.length + total) 0
            configurationSubsystems := configuration.subsystems.size }

/-- Sum of counts. -/
def addCounts (left right : StoreCounts) : StoreCounts where
  instances := left.instances + right.instances
  appServerInstances := left.appServerInstances + right.appServerInstances
  configurations := left.configurations + right.configurations
  deployments := left.deployments + right.deployments
  extensions := left.extensions + right.extensions
  extensionSubsystems := left.extensionSubsystems + right.extensionSubsystems
  configurationSubsystems := left.configurationSubsystems + right.configurationSubsystems
  jarHashes := left.jarHashes + right.jarHashes
  instanceJarHashes := left.instanceJarHashes + right.instanceJarHashes
  moduleJarHashes := left.moduleJarHashes + right.moduleJarHashes
  deploymentJarHashes := left.deploymentJarHashes + right.deploymentJarHashes

/-- Count the rows. -/
def counts (ledger : Ledger) : StoreCounts :=
  ledger.entries.foldl (fun counts entry => addCounts counts (countsOf entry.2))
    { jarHashes := ledger.jars.size }

end Ledger
end JarLedger
