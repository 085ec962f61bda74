import JarLedger.Snapshot.Identity
import JarLedger.Snapshot.JarList

/-!
# Reading a virtual machine

A machine is described by the `basic` section of a document; its jars, and an identity that takes
the place of the computed one, stand beside that section.
-/

namespace JarLedger
namespace Snapshot

/-- The identity given in a section, unless it is absent or empty; else the computed one. -/
def linkingHashOf (root : Section) (identity : Identity) : Except ClassificationError String := do
  match ← root.optText "idHash" with
  | none => return identity.linkingHash
  | some given => return if given.isEmpty then identity.linkingHash else given

/-- The virtual machine that a document describes. -/
def machine (announcement : Announcement) (root : Section) (members : List (String × Json)) :
    Except ClassificationError Jvm := do
  let basic : Section := ⟨root.pathOf "basic", members⟩
  let hostname ← basic.requiredText "system.hostname"
  let launchTime ← basic.requiredInt64 "jvm.report_time"
  let vendor ← basic.optText "java.vm.specification.vendor"
  let versionString ← basic.optText "java.runtime.version"
  let javaHome ← basic.optText "java.home"
  let pid ← basic.optInt64 "jvm.pid"
  let linkingHash ←
    linkingHashOf root { hostname, launchTime, vendor, versionString, javaHome, pid }
  let version ← basic.optText "java.version"
  let heapMin ← basic.optInt64 "jvm.heap.min"
  let heapMax ← basic.optInt64 "jvm.heap.max"
  let processors ← basic.optInt32 "system.cores.logical"
  let javaClassPath ← basic.optText "java.class.path"
  let jars ← root.jars "jars"
  return {
    linkingHash, hostname, launchTime, vendor, versionString, version, heapMin, heapMax, processors
    javaHome, javaClassPath, pid, jars
    accountId := announcement.accountId
    orgId := announcement.orgId
    created := announcement.timestamp
    details := .object members }

end Snapshot
end JarLedger
