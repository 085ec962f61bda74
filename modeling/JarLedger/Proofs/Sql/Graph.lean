import JarLedger.Sql.Write

/-!
# The rows of an instance

An instance is stored as a graph: rows point to the rows that they belong to by the numbers that the
server gave those.  `Graph.rows` is the list of all rows of an instance under given numbers, in
the order in which they are written.  Where the numbers in each table are distinct, the links of a
deployment are tied to no other one, and neither are the subsystems of an extension
(`Graph.separate_rows`).
-/

namespace JarLedger

/-- A row of a table, by its columns. -/
structure Row where
  table : String
  fields : List (String × SqlValue)

/-- The number in the first column, which tells what a row belongs to. -/
def Row.owner? (row : Row) : Option Int := row.fields.head?.bind fun field => field.2.int?

/-- The configuration of an instance, if it is a server that has one. -/
def Instance.configuration? : Instance → Option Configuration
  | .jvm _ => none
  | .appServer server => server.configuration

namespace Graph

open Sql

/-- The numbers of the rows of an instance. -/
structure Numbering where
  machine : Int
  configuration : Int
  /-- The numbers of the deployments, in their order. -/
  deployments : List Int
  /-- The numbers of the extensions, in their order. -/
  extensions : List Int
  /-- The number of a jar, by its hash. -/
  jar : String → Int

/-! ## Rows of single things -/

def machineRow (kind : InstanceKind) (machine : Jvm) : Row where
  table := "runtime_instance"
  fields := [
    ("linking_hash", .text machine.linkingHash),
    ("kind", .text kind.name),
    ("account_id", optionalText machine.accountId),
    ("org_id", .text machine.orgId),
    ("created", .time machine.created),
    ("hostname", .text machine.hostname),
    ("launch_time", .int machine.launchTime.toInt),
    ("vendor", optionalText machine.vendor),
    ("version_string", optionalText machine.versionString),
    ("version", optionalText machine.version),
    ("heap_min", optionalInt64 machine.heapMin),
    ("heap_max", optionalInt64 machine.heapMax),
    ("processors", optionalInt32 machine.processors),
    ("java_home", optionalText machine.javaHome),
    ("java_class_path", optionalText machine.javaClassPath),
    ("pid", optionalInt64 machine.pid),
    ("details", .json machine.details)]

def jarRow (jar : Jar) : Row where
  table := "jar_hash"
  fields := [
    ("hash", .text jar.hash),
    ("name", optionalText jar.label.name),
    ("version", optionalText jar.label.version)]

/-- The link of an owner to a jar. -/
def linkRow (table ownerColumn : String) (owner jar : Int) : Row where
  table
  fields := [(ownerColumn, .int owner), ("jar_hash_id", .int jar)]

def serverRow (machine : Int) (server : AppServer) : Row where
  table := "app_server_instance"
  fields := [
    ("instance_id", .int machine),
    ("server_version", optionalText server.serverVersion),
    ("xp", .bool server.xp),
    ("yaml_extension", optionalBool server.yamlExtension),
    ("bootable_jar", optionalBool server.bootableJar),
    ("use_git", optionalBool server.useGit),
    ("raw", .text server.raw)]

def configurationRow (machine : Int) (configuration : Configuration) : Row where
  table := "app_server_configuration"
  fields := [
    ("instance_id", .int machine),
    ("version", optionalText configuration.descriptors.version),
    ("launch_type", optionalText configuration.descriptors.launchType),
    ("name", optionalText configuration.descriptors.name),
    ("organization", optionalText configuration.descriptors.organization),
    ("process_type", optionalText configuration.descriptors.processType),
    ("product_name", optionalText configuration.descriptors.productName),
    ("product_version", optionalText configuration.descriptors.productVersion),
    ("profile_name", optionalText configuration.descriptors.profileName),
    ("release_codename", optionalText configuration.descriptors.releaseCodename),
    ("release_version", optionalText configuration.descriptors.releaseVersion),
    ("running_mode", optionalText configuration.descriptors.runningMode),
    ("runtime_configuration_state",
      optionalText configuration.descriptors.runtimeConfigurationState),
    ("server_state", optionalText configuration.descriptors.serverState),
    ("suspend_state", optionalText configuration.descriptors.suspendState),
    ("socket_binding_groups", .json configuration.socketBindingGroups),
    ("paths", .json configuration.paths),
    ("interfaces", .json configuration.interfaces)]

def deploymentRow (configuration : Int) (deployment : Deployment) : Row where
  table := "app_server_deployment"
  fields := [
    ("configuration_id", .int configuration),
    ("name", .text deployment.name),
    ("runtime_name", optionalText deployment.runtimeName),
    ("enabled", optionalBool deployment.enabled),
    ("persistent", optionalBool deployment.persistent),
    ("content", .json deployment.content)]

def extensionRow (configuration : Int) (extension : Extension) : Row where
  table := "app_server_extension"
  fields := [("configuration_id", .int configuration), ("module", .text extension.moduleName)]

def extensionSubsystemRow (extension : Int) (subsystem : ExtensionSubsystem) : Row where
  table := "app_server_extension_subsystem"
  fields := [
    ("extension_id", .int extension),
    ("name", .text subsystem.name),
    ("management_major_version", optionalInt32 subsystem.managementMajorVersion),
    ("management_minor_version", optionalInt32 subsystem.managementMinorVersion),
    ("management_micro_version", optionalInt32 subsystem.managementMicroVersion)]

def subsystemRow (configuration : Int) (subsystem : String × Json) : Row where
  table := "app_server_configuration_subsystem"
  fields := [
    ("configuration_id", .int configuration),
    ("name", .text subsystem.1),
    ("settings", .json subsystem.2)]

/-! ## The rows of an instance -/

/-- The links of an owner to the jars of a set. -/
def links (table ownerColumn : String) (owner : Int) (number : String → Int) (jars : JarSet) :
    List Row :=
  jars.keys.map fun hash => linkRow table ownerColumn owner (number hash)

/-- The links of a deployment to its jars. -/
def deploymentLinks (number : String → Int) (entry : Deployment × Int) : List Row :=
  links "app_server_deployment_jar_hash" "deployment_id" entry.2 number entry.1.jars

/-- The subsystems of an extension. -/
def extensionSubsystems (entry : Extension × Int) : List Row :=
  entry.1.subsystems.map (extensionSubsystemRow entry.2)

/-- The rows of numbered deployments, each followed by its links. -/
def deploymentFamilies (configuration : Int) (number : String → Int)
    (entries : List (Deployment × Int)) : List Row :=
  entries.flatMap fun entry => deploymentRow configuration entry.1 :: deploymentLinks number entry

/-- The rows of numbered extensions, each followed by its subsystems. -/
def extensionFamilies (configuration : Int) (entries : List (Extension × Int)) : List Row :=
  entries.flatMap fun entry => extensionRow configuration entry.1 :: extensionSubsystems entry

/-- The rows of a configuration: its own, the deployments, the extensions, and its subsystems. -/
def configurationRows (numbering : Numbering) (configuration : Configuration) : List Row :=
  [configurationRow numbering.machine configuration] ++
    deploymentFamilies numbering.configuration numbering.jar
      (configuration.deployments.zip numbering.deployments) ++
    extensionFamilies numbering.configuration
      (configuration.extensions.zip numbering.extensions) ++
    configuration.subsystems.entries.map (subsystemRow numbering.configuration)

/-- The rows of a server beside those of its configuration. -/
def serverRows (numbering : Numbering) : Instance → List Row
  | .jvm _ => []
  | .appServer server =>
      serverRow numbering.machine server ::
        links "app_server_module_jar_hash" "instance_id" numbering.machine numbering.jar
          server.moduleJars

/-- All rows of an instance, in the order in which they are written. -/
def rows (numbering : Numbering) (new : Instance) : List Row :=
  [machineRow new.kind new.machine] ++ new.allJars.toList.map jarRow ++
    links "instance_jar_hash" "instance_id" numbering.machine numbering.jar new.machine.jars ++
    serverRows numbering new ++
    (new.configuration?.map (configurationRows numbering)).getD []

/-- The numbers that are given to rows of an instance other than jars, with the tables of those, in
the order in which they are given. -/
def given (numbering : Numbering) (new : Instance) : List (String × Int) :=
  ("runtime_instance", numbering.machine) ::
    match new.configuration? with
    | none => []
    | some _ =>
        ("app_server_configuration", numbering.configuration) ::
          (numbering.deployments.map (Prod.mk "app_server_deployment") ++
            numbering.extensions.map (Prod.mk "app_server_extension"))

/-- There is a number for each deployment and for each extension. -/
def Numbering.Covers (numbering : Numbering) (new : Instance) : Prop :=
  ∀ configuration ∈ new.configuration?,
    numbering.deployments.length = configuration.deployments.length ∧
      numbering.extensions.length = configuration.extensions.length

/-! ## Rows that belong to one thing -/

/-- The rows of a table that belong to a number. -/
def ownedBy (table : String) (owner : Int) (rows : List Row) : List Row :=
  rows.filter fun row => row.table = table ∧ row.owner? = some owner

/-- Each link of a deployment, and each subsystem of an extension, is tied to its own. -/
structure Separate (new : Instance) (numbering : Numbering) (rows : List Row) : Prop where
  deployments : ∀ configuration ∈ new.configuration?,
    ∀ entry ∈ configuration.deployments.zip numbering.deployments,
      ownedBy "app_server_deployment_jar_hash" entry.2 rows = deploymentLinks numbering.jar entry
  extensions : ∀ configuration ∈ new.configuration?,
    ∀ entry ∈ configuration.extensions.zip numbering.extensions,
      ownedBy "app_server_extension_subsystem" entry.2 rows = extensionSubsystems entry

theorem ownedBy_append (table : String) (owner : Int) (first second : List Row) :
    ownedBy table owner (first ++ second) =
      ownedBy table owner first ++ ownedBy table owner second :=
  List.filter_append ..

theorem ownedBy_eq_nil {table : String} {tables : List String} {rows : List Row} (owner : Int)
    (among : ∀ row ∈ rows, row.table ∈ tables) (apart : table ∉ tables) :
    ownedBy table owner rows = [] := by
  simp only [ownedBy, List.filter_eq_nil_iff, decide_eq_true_eq, not_and]
  exact fun row member same => absurd (same ▸ among row member) apart

theorem table_links {table ownerColumn : String} {owner : Int} {number : String → Int}
    {jars : JarSet} : ∀ row ∈ links table ownerColumn owner number jars,
      row.table = table ∧ row.owner? = some owner := by
  simp only [links, List.forall_mem_map]
  exact fun _ _ => ⟨rfl, rfl⟩

theorem table_deploymentLinks (number : String → Int) (entry : Deployment × Int) :
    ∀ row ∈ deploymentLinks number entry,
      row.table = "app_server_deployment_jar_hash" ∧ row.owner? = some entry.2 :=
  table_links

theorem table_extensionSubsystems (entry : Extension × Int) :
    ∀ row ∈ extensionSubsystems entry,
      row.table = "app_server_extension_subsystem" ∧ row.owner? = some entry.2 := by
  simp only [extensionSubsystems, List.forall_mem_map]
  exact fun _ _ => ⟨rfl, rfl⟩

section Owned

variable {α : Type} {table : String} {parent : α × Int → Row} {children : α × Int → List Row}
  (other : ∀ entry, (parent entry).table ≠ table)
  (own : ∀ entry, ∀ row ∈ children entry, row.table = table ∧ row.owner? = some entry.2)
include other own

theorem ownedBy_family (entry : α × Int) (owner : Int) :
    ownedBy table owner (parent entry :: children entry) =
      if entry.2 = owner then children entry else [] := by
  rw [ownedBy, List.filter_cons_of_neg (by simp [other])]
  split
  · rename_i same
    rw [List.filter_eq_self]
    intro row member
    simp [own entry row member, same]
  · rename_i differs
    rw [List.filter_eq_nil_iff]
    intro row member
    simp [own entry row member, differs]

/-- Among families with distinct numbers, what belongs to a number are the children of that one. -/
theorem ownedBy_families {entries : List (α × Int)} (distinct : (entries.map Prod.snd).Nodup)
    {entry : α × Int} (member : entry ∈ entries) :
    ownedBy table entry.2 (entries.flatMap fun entry => parent entry :: children entry) =
      children entry := by
  induction entries with
  | nil => cases member
  | cons head rest ih =>
      rw [List.map_cons, List.nodup_cons] at distinct
      rw [List.flatMap_cons, ownedBy_append, ownedBy_family other own]
      rcases List.mem_cons.mp member with rfl | later
      · rw [if_pos rfl, List.append_right_eq_self, ownedBy, List.filter_flatMap,
          List.flatMap_eq_nil_iff]
        intro sibling among
        have differs : sibling.2 ≠ entry.2 := fun same =>
          distinct.1 (same ▸ List.mem_map_of_mem among)
        exact (ownedBy_family other own sibling entry.2).trans (if_neg differs)
      · have differs : head.2 ≠ entry.2 := fun same =>
          distinct.1 (same ▸ List.mem_map_of_mem later)
        rw [if_neg differs, List.nil_append, ih distinct.2 later]

end Owned

theorem table_deploymentFamilies (configuration : Int) (number : String → Int)
    (entries : List (Deployment × Int)) :
    ∀ row ∈ deploymentFamilies configuration number entries,
      row.table ∈ ["app_server_deployment", "app_server_deployment_jar_hash"] := by
  simp only [deploymentFamilies, List.forall_mem_flatMap, List.forall_mem_cons]
  refine fun entry _ => ⟨by simp [deploymentRow], fun row member => ?_⟩
  simp [(table_links row member).1]

theorem table_extensionFamilies (configuration : Int) (entries : List (Extension × Int)) :
    ∀ row ∈ extensionFamilies configuration entries,
      row.table ∈ ["app_server_extension", "app_server_extension_subsystem"] := by
  simp only [extensionFamilies, List.forall_mem_flatMap, List.forall_mem_cons]
  refine fun entry _ => ⟨by simp [extensionRow], fun row member => ?_⟩
  simp [(table_extensionSubsystems entry row member).1]

theorem table_serverRows (numbering : Numbering) (new : Instance) :
    ∀ row ∈ serverRows numbering new,
      row.table ∈ ["app_server_instance", "app_server_module_jar_hash"] := by
  cases new with
  | jvm machine => exact nofun
  | appServer server =>
      refine List.forall_mem_cons.mpr ⟨by simp [serverRow], fun row member => ?_⟩
      simp [(table_links row member).1]

/-- What belongs to a deployment or to an extension is among the rows of those. -/
theorem ownedBy_rows {numbering : Numbering} {new : Instance} {configuration : Configuration}
    (present : new.configuration? = some configuration) {table : String} (owner : Int)
    (apart : table ∉ ["runtime_instance", "jar_hash", "instance_jar_hash", "app_server_instance",
      "app_server_module_jar_hash", "app_server_configuration",
      "app_server_configuration_subsystem"]) :
    ownedBy table owner (rows numbering new) =
      ownedBy table owner (deploymentFamilies numbering.configuration numbering.jar
          (configuration.deployments.zip numbering.deployments)) ++
        ownedBy table owner (extensionFamilies numbering.configuration
          (configuration.extensions.zip numbering.extensions)) := by
  have single {other : String} (known : other ≠ table) {rows : List Row}
      (all : ∀ row ∈ rows, row.table = other) : ownedBy table owner rows = [] :=
    ownedBy_eq_nil owner (fun row member => List.mem_singleton.mpr (all row member))
      (by simpa using known.symm)
  simp only [List.mem_cons, List.not_mem_nil, or_false, not_or] at apart
  obtain ⟨noMachine, noJar, noLink, noServer, noModule, noConfiguration, noSubsystem⟩ := apart
  have machine : ownedBy table owner [machineRow new.kind new.machine] = [] :=
    single (Ne.symm noMachine) (by simp [machineRow])
  have jars : ownedBy table owner (new.allJars.toList.map jarRow) = [] :=
    single (Ne.symm noJar) (by simp [jarRow])
  have direct : ownedBy table owner (links "instance_jar_hash" "instance_id" numbering.machine
      numbering.jar new.machine.jars) = [] :=
    single (Ne.symm noLink) fun row member => (table_links row member).1
  have server : ownedBy table owner (serverRows numbering new) = [] :=
    ownedBy_eq_nil owner (table_serverRows numbering new) (by simp [noServer, noModule])
  have own : ownedBy table owner [configurationRow numbering.machine configuration] = [] :=
    single (Ne.symm noConfiguration) (by simp [configurationRow])
  have subsystems : ownedBy table owner
      (configuration.subsystems.entries.map (subsystemRow numbering.configuration)) = [] :=
    single (Ne.symm noSubsystem) fun row member => by
      obtain ⟨_, _, rfl⟩ := List.mem_map.mp member
      rfl
  simp only [rows, present, Option.map_some, Option.getD_some, configurationRows, ownedBy_append,
    machine, jars, direct, server, own, subsystems, List.nil_append, List.append_nil]

theorem nodup_of_given {numbering : Numbering} {new : Instance} {configuration : Configuration}
    (present : new.configuration? = some configuration)
    (distinct : (given numbering new).Nodup) :
    numbering.deployments.Nodup ∧ numbering.extensions.Nodup := by
  rw [given, present] at distinct
  obtain ⟨deployments, extensions, -⟩ := List.nodup_append.mp distinct.of_cons.of_cons
  have differ {table : String} (first second : Int) (apart : (table, first) ≠ (table, second)) :
      first ≠ second := fun same => apart (congrArg _ same)
  exact ⟨List.Pairwise.of_map _ differ deployments, List.Pairwise.of_map _ differ extensions⟩

/-- Where the numbers in each table are distinct, the links of each deployment and the subsystems of
each extension are tied to it and to nothing else. -/
theorem separate_rows {numbering : Numbering} {new : Instance} (covers : numbering.Covers new)
    (distinct : (given numbering new).Nodup) :
    Separate new numbering (rows numbering new) where
  deployments configuration present entry member := by
    have numbers : (configuration.deployments.zip numbering.deployments).map Prod.snd =
        numbering.deployments := List.map_snd_zip (Nat.le_of_eq (covers configuration present).1)
    rw [ownedBy_rows present _ (by decide), deploymentFamilies,
      ownedBy_families (fun _ => by simp [deploymentRow]) (table_deploymentLinks numbering.jar)
        (by rw [numbers]; exact (nodup_of_given present distinct).1) member,
      ownedBy_eq_nil _ (table_extensionFamilies _ _) (by decide), List.append_nil]
  extensions configuration present entry member := by
    have numbers : (configuration.extensions.zip numbering.extensions).map Prod.snd =
        numbering.extensions := List.map_snd_zip (Nat.le_of_eq (covers configuration present).2)
    rw [ownedBy_rows present _ (by decide), extensionFamilies,
      ownedBy_families (fun _ => by simp [extensionRow]) table_extensionSubsystems
        (by rw [numbers]; exact (nodup_of_given present distinct).2) member,
      ownedBy_eq_nil _ (table_deploymentFamilies _ _ _) (by decide), List.nil_append]

end Graph
end JarLedger
