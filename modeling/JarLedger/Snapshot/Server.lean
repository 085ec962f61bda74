import JarLedger.Snapshot.JarList

/-!
# Reading an application server

A server is described by the `eap` section of a document, which may hold a configuration with
deployments, extensions and subsystems.
-/

namespace JarLedger
namespace Snapshot

/-- A deployment at a place of a document. -/
def deployment (path : Path) (item : Json) : Except ClassificationError Deployment := do
  let part ← Section.ofItem path item
  let name ← part.requiredText "name"
  let runtimeName ← part.optText "runtime-name"
  let enabled ← part.optBool "enabled"
  let persistent ← part.optBool "persistent"
  let jars ← part.jars "archives"
  return { name, runtimeName, enabled, persistent, jars, content := part.raw "content" }

/-- A subsystem of an extension at a place of a document. -/
def extensionSubsystem (path : Path) (item : Json) :
    Except ClassificationError ExtensionSubsystem := do
  let part ← Section.ofItem path item
  let name ← part.requiredText "name"
  let managementMajorVersion ← part.optInt32 "management-major-version"
  let managementMinorVersion ← part.optInt32 "management-minor-version"
  let managementMicroVersion ← part.optInt32 "management-micro-version"
  return { name, managementMajorVersion, managementMinorVersion, managementMicroVersion }

/-- An extension at a place of a document. -/
def extensionOf (path : Path) (item : Json) : Except ClassificationError Extension := do
  let part ← Section.ofItem path item
  let subsystems ← part.optArray "subsystems"
  let subsystems ← Section.readItems (part.pathOf "subsystems") extensionSubsystem subsystems
  let moduleName ← part.requiredText "module"
  return { moduleName, subsystems }

/-- The scalar descriptors of a configuration. -/
def descriptors (part : Section) : Except ClassificationError Descriptors := do
  let version ← part.optText "version"
  let launchType ← part.optText "launch-type"
  let name ← part.optText "name"
  let organization ← part.optText "organization"
  let processType ← part.optText "process-type"
  let productName ← part.optText "product-name"
  let productVersion ← part.optText "product-version"
  let profileName ← part.optText "profile-name"
  let releaseCodename ← part.optText "release-codename"
  let releaseVersion ← part.optText "release-version"
  let runningMode ← part.optText "running-mode"
  let runtimeConfigurationState ← part.optText "runtime-configuration-state"
  let serverState ← part.optText "server-state"
  let suspendState ← part.optText "suspend-state"
  return {
    version, launchType, name, organization, processType, productName, productVersion, profileName
    releaseCodename, releaseVersion, runningMode, runtimeConfigurationState, serverState
    suspendState }

/-- The configuration that a section describes. -/
def configuration (part : Section) : Except ClassificationError Configuration := do
  let deployments ← part.optArray "deployments"
  let deployments ← Section.readItems (part.pathOf "deployments") deployment deployments
  let extensions ← part.optArray "extensions"
  let extensions ← Section.readItems (part.pathOf "extensions") extensionOf extensions
  let subsystems ← part.optObject "subsystems"
  let descriptors ← descriptors part
  return {
    descriptors, deployments, extensions
    socketBindingGroups := part.raw "socket-binding-groups"
    paths := part.raw "paths"
    interfaces := part.raw "interfaces"
    subsystems := SortedMap.ofListLast (subsystems.getD []) }

/-- The configuration of a server, if it has one. -/
def optConfiguration (part : Section) : Except ClassificationError (Option Configuration) := do
  match ← part.optObject "eap-configuration" with
  | none => return none
  | some members => some <$> configuration ⟨part.pathOf "eap-configuration", members⟩

/-- The application server that a document describes, on a machine read before. -/
def server (root : Section) (machine : Jvm) (members : List (String × Json)) (raw : String) :
    Except ClassificationError AppServer := do
  let part : Section := ⟨root.pathOf "eap", members⟩
  let configuration ← optConfiguration part
  let serverVersion ← part.optText "eap-version"
  let xp ← part.optBool "eap-xp"
  let yamlExtension ← part.optBool "eap-yaml-extension"
  let bootableJar ← part.optBool "eap-bootable-jar"
  let useGit ← part.optBool "eap-use-git"
  let moduleJars ← part.jars "eap-modules"
  return {
    configuration, serverVersion, yamlExtension, bootableJar, useGit, moduleJars, raw
    jvm := machine
    xp := xp.getD false }

end Snapshot
end JarLedger
