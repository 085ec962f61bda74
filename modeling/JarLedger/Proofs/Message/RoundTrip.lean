import JarLedger.Message.Record
import JarLedger.Proofs.Snapshot.Fields
import JarLedger.Proofs.SortedMap

/-!
# Messages come back as they were written

Each record is read back from its written form as it was, field by field: an absent field from the
`null` that it is written as, and every jar with its name and version.  The only part of a message
whose written form may not be readable is an instant.  A message whose instants are readable comes
back whole (`Message.ofJson?_toJson`), and nothing that can be read as a message is changed by
writing it anew (`Message.written_form_lossless`).
-/

namespace JarLedger

namespace Json

theorem string?_string (text : String) : string? (.string text) = some text := rfl

theorem int64?_ofInt64 (word : Int64) : int64? (ofInt64 word) = some word := by
  have fits : Text.fitsSigned 64 word.toInt = true :=
    (Text.fitsSigned_iff _ _).mpr ⟨word.le_toInt, word.toInt_lt⟩
  rw [ofInt64, int64?, if_pos fits, Int64.ofInt_toInt]

theorem int32?_ofInt32 (word : Int32) : int32? (ofInt32 word) = some word := by
  have fits : Text.fitsSigned 32 word.toInt = true :=
    (Text.fitsSigned_iff _ _).mpr ⟨word.le_toInt, word.toInt_lt⟩
  rw [ofInt32, int32?, if_pos fits, Int32.ofInt_toInt]

namespace Record

variable {α : Type}

/-- Values of a sort are read back as they were written, and none is written as `null`. -/
structure Undoes (encode : α → Json) (convert : Json → Option α) : Prop where
  read (value : α) : convert (encode value) = some value
  full (value : α) : encode value ≠ .null

theorem undoes_string : Undoes .string string? := ⟨fun _ => rfl, nofun⟩

theorem undoes_bool : Undoes .bool bool? := ⟨fun _ => rfl, nofun⟩

theorem undoes_int64 : Undoes ofInt64 int64? := ⟨int64?_ofInt64, nofun⟩

theorem undoes_int32 : Undoes ofInt32 int32? := ⟨int32?_ofInt32, nofun⟩

variable {β : Type} {name other : String} {written : Json} {rest : List (String × Json)}
  {encode : α → Json} {convert : Json → Option α}

/-!
A record is read field by field.  Each lemma takes one step of such a reading, and leaves what comes
after it alone: with them `simp` goes through a record from its first field to its last one, not
into the fields that are still to come.
-/

theorem fields?_bind {names : List String} {members : List (String × Json)}
    {next : List (String × Json) → Option β} :
    (fields? names (.object members) >>= next) = next members := rfl

theorem required_bind {value : α} {next : α → Option β} (read : convert written = some value) :
    (required ((name, written) :: rest) name convert >>= next) = next value := by
  rw [required, List.lookup_cons_self, Option.bind_some, read]
  rfl

theorem required_bind_of_ne {next : α → Option β} (different : name ≠ other) :
    (required ((other, written) :: rest) name convert >>= next) =
      (required rest name convert >>= next) := by
  rw [required, List.lookup_cons, beq_eq_false_iff_ne.mpr different, required]

/-- An optional field is read back, whether it is there or not. -/
theorem optional_ofOption (undoes : Undoes encode convert) (value : Option α) :
    optional ((name, .ofOption encode value) :: rest) name convert = some value := by
  rw [optional, List.lookup_cons_self]
  cases value with
  | none => rfl
  | some value =>
      rw [ofOption]
      split
      · rename_i absent
        cases absent
      · rename_i same
        exact absurd (Option.some.inj same) (undoes.full value)
      · rename_i same
        cases same
        rw [undoes.read, Option.map_some]

theorem optional_bind {value : Option α} {next : Option α → Option β}
    (undoes : Undoes encode convert) :
    (optional ((name, .ofOption encode value) :: rest) name convert >>= next) = next value := by
  rw [optional_ofOption undoes]
  rfl

theorem optional_bind_of_ne {next : Option α → Option β} (different : name ≠ other) :
    (optional ((other, written) :: rest) name convert >>= next) =
      (optional rest name convert >>= next) := by
  simp only [optional, List.lookup_cons, beq_eq_false_iff_ne.mpr different]

/-- A list is read back if each of its items is. -/
theorem list?_map {items : List α}
    (read : ∀ item ∈ items, convert (encode item) = some item) :
    list? convert (.array (items.map encode)) = some items := by
  rw [list?, items?, Option.bind_some]
  induction items with
  | nil => rfl
  | cons item items ih =>
      obtain ⟨first, later⟩ := List.forall_mem_cons.mp read
      rw [List.map_cons, List.mapM_cons, first, ih later]
      rfl

end Record
end Json

open Json.Record

/-- The written form of an instant is read back as that instant. -/
def Instant.IsLegible (instant : Instant) : Prop :=
  Instant.ofLooseText? instant.toRfc3339 = some instant

namespace SortedMap

variable {value : Type}

/-- The entries of a map make that map again, whichever of two equal keys would stay. -/
theorem ofListLast_entries (map : SortedMap value) : ofListLast map.entries = map := by
  refine ext_get? fun key => Option.ext fun stored => ?_
  rw [get?_ofListLast_eq_some_iff map.nodup_keys, get?, lookup_eq_some_iff_of_nodup map.nodup_keys]

theorem ofListFirst_entries (map : SortedMap value) : ofListFirst map.entries = map := by
  refine ext_get? fun key => ?_
  rw [get?_ofListFirst]
  rfl

end SortedMap

theorem JarSet.ofList_toList (jars : JarSet) : ofList jars.toList = jars := by
  rw [ofList, toList, List.map_map]
  exact (congrArg _ (List.map_id' _)).trans (SortedMap.ofListFirst_entries jars)

/-! ## Records -/

theorem Jar.ofJson?_toJson (jar : Jar) : ofJson? jar.toJson = some jar := by
  rw [ofJson?, toJson]
  simp [↓ fields?_bind, ↓ required_bind (undoes_string.read _), ↓ optional_bind undoes_string,
    ↓ optional_bind_of_ne]

theorem JarSet.ofJson?_toJson (jars : JarSet) : ofJson? jars.toJson = some jars := by
  rw [ofJson?, toJson, list?_map fun jar _ => jar.ofJson?_toJson, Option.map_some, ofList_toList]

theorem Instant.IsLegible.ofJson?_toJson {instant : Instant} (legible : instant.IsLegible) :
    ofJson? instant.toJson = some instant := by
  rw [ofJson?, toJson, Json.string?_string, Option.bind_some]
  exact legible

theorem ExtensionSubsystem.ofJson?_toJson (subsystem : ExtensionSubsystem) :
    ofJson? subsystem.toJson = some subsystem := by
  rw [ofJson?, toJson]
  simp [↓ fields?_bind, ↓ required_bind (undoes_string.read _), ↓ optional_bind undoes_int32,
    ↓ optional_bind_of_ne]

theorem Extension.ofJson?_toJson (extended : Extension) :
    ofJson? extended.toJson = some extended := by
  rw [ofJson?, toJson]
  simp [↓ fields?_bind, ↓ required_bind (undoes_string.read _),
    ↓ required_bind (list?_map fun _ _ => ExtensionSubsystem.ofJson?_toJson _),
    ↓ required_bind_of_ne]

theorem Deployment.ofJson?_toJson (deployment : Deployment) :
    ofJson? deployment.toJson = some deployment := by
  rw [ofJson?, toJson]
  simp [↓ fields?_bind, ↓ required_bind (undoes_string.read _), ↓ required_bind (Eq.refl (some _)),
    ↓ required_bind (JarSet.ofJson?_toJson _), ↓ required_bind_of_ne, ↓ optional_bind undoes_string,
    ↓ optional_bind undoes_bool, ↓ optional_bind_of_ne]

theorem Jvm.ofJson?_toJson {machine : Jvm} (legible : machine.created.IsLegible) :
    ofJson? machine.toJson = some machine := by
  rw [ofJson?, toJson]
  simp [↓ fields?_bind, ↓ required_bind (undoes_string.read _),
    ↓ required_bind (undoes_int64.read _), ↓ required_bind legible.ofJson?_toJson,
    ↓ required_bind (Eq.refl (some _)),
    ↓ required_bind (JarSet.ofJson?_toJson _), ↓ required_bind_of_ne, ↓ optional_bind undoes_string,
    ↓ optional_bind undoes_int64, ↓ optional_bind undoes_int32, ↓ optional_bind_of_ne]

theorem Configuration.ofJson?_toJson (configuration : Configuration) :
    ofJson? configuration.toJson = some configuration := by
  rw [ofJson?, toJson]
  simp [↓ fields?_bind, ↓ required_bind (Eq.refl (some _)),
    ↓ required_bind (list?_map fun _ _ => Deployment.ofJson?_toJson _),
    ↓ required_bind (list?_map fun _ _ => Extension.ofJson?_toJson _),
    ↓ required_bind (Eq.refl (Json.members? (.object _))),
    ↓ required_bind_of_ne, ↓ optional_bind undoes_string, ↓ optional_bind_of_ne,
    SortedMap.ofListLast_entries]

theorem undoes_configuration : Undoes Configuration.toJson Configuration.ofJson? :=
  ⟨Configuration.ofJson?_toJson, fun configuration => by rw [Configuration.toJson]; exact nofun⟩

theorem AppServer.ofJson?_toJson {server : AppServer} (legible : server.jvm.created.IsLegible) :
    ofJson? server.toJson = some server := by
  rw [ofJson?, toJson]
  simp [↓ fields?_bind, ↓ required_bind (Jvm.ofJson?_toJson legible),
    ↓ required_bind (undoes_string.read _), ↓ required_bind (undoes_bool.read _),
    ↓ required_bind (JarSet.ofJson?_toJson _), ↓ required_bind_of_ne, ↓ optional_bind undoes_string,
    ↓ optional_bind undoes_bool, ↓ optional_bind undoes_configuration, ↓ optional_bind_of_ne]

theorem Delta.ofJson?_toJson (delta : Delta) : ofJson? delta.toJson = some delta := by
  rw [ofJson?, toJson]
  simp [↓ fields?_bind, ↓ required_bind (undoes_string.read _),
    ↓ required_bind (JarSet.ofJson?_toJson _), ↓ required_bind_of_ne]

theorem Instance.ofJson?_toJson {new : Instance} (legible : new.machine.created.IsLegible) :
    ofJson? new.toJson = some new := by
  cases new with
  | jvm machine =>
      have read : Jvm.ofJson? machine.toJson = some machine := Jvm.ofJson?_toJson legible
      simp [ofJson?, toJson, variant?, read]
  | appServer server =>
      have read : AppServer.ofJson? server.toJson = some server := AppServer.ofJson?_toJson legible
      simp [ofJson?, toJson, variant?, read]

/-! ## Messages -/

namespace Message

/-- The written forms of the instants in a message can be read back. -/
def IsLegible : Message → Prop
  | .newInstance new => new.machine.created.IsLegible
  | .update _ => True

theorem ofJson?_toJson {message : Message} (legible : message.IsLegible) :
    ofJson? message.toJson = some message := by
  cases message with
  | newInstance new =>
      have read : Instance.ofJson? new.toJson = some new := Instance.ofJson?_toJson legible
      simp [ofJson?, toJson, variant?, read]
  | update delta => simp [ofJson?, toJson, variant?, delta.ofJson?_toJson]

/-- The written form of a message says all that the message does: it is read as that very message,
with the names and versions of all jars.  Whatever else is read as a message, objects and arrays,
with further fields or with jars given twice, is read the same when it is written anew. -/
theorem written_form_lossless :
    (∀ message : Message, message.IsLegible → ofJson? message.toJson = some message) ∧
      ∀ (value : Json) (message : Message), ofJson? value = some message → message.IsLegible →
        ofJson? message.toJson = ofJson? value :=
  ⟨fun _ legible => ofJson?_toJson legible,
    fun _ _ read legible => (ofJson?_toJson legible).trans read.symm⟩

/-- A machine that says little of itself. -/
def plainMachine : Jvm where
  linkingHash := "6b86b273"
  accountId := none
  orgId := "11789772"
  created := ⟨1722384000, 500000000⟩
  hostname := "web-1"
  launchTime := 1722383999000
  vendor := some "Red Hat"
  versionString := none
  version := some "17.0.8"
  heapMin := some (-1)
  heapMax := none
  processors := some 8
  javaHome := none
  javaClassPath := some ""
  pid := some 4711
  details := .object [("java.vendor", .null)]
  jars := JarSet.ofList [⟨"aa", ⟨some "a.jar", none⟩⟩, ⟨"bb", ⟨none, some "2"⟩⟩]

/-- A server on that machine, with a deployment and an extension. -/
def plainServer : AppServer where
  jvm := plainMachine
  serverVersion := some "7.4"
  xp := true
  yamlExtension := none
  bootableJar := some false
  useGit := none
  configuration := some {
    descriptors := {
      version := none, launchType := some "STANDALONE", name := none, organization := none,
      processType := none, productName := some "EAP", productVersion := none,
      profileName := none, releaseCodename := some "", releaseVersion := none,
      runningMode := none, runtimeConfigurationState := none, serverState := none,
      suspendState := none }
    socketBindingGroups := .null
    paths := .array []
    interfaces := .object [("public", .bool true)]
    deployments := [⟨"app.war", none, some true, none, .null,
      JarSet.ofList [⟨"aa", ⟨none, some "1"⟩⟩]⟩]
    extensions := [⟨"org.jboss.as.jmx", [⟨"jmx", some 1, none, some 0⟩, ⟨"jmx", none, none, none⟩]⟩]
    subsystems := SortedMap.ofListLast [("jmx", .null), ("ee", .array [.null])] }
  moduleJars := JarSet.ofList [⟨"aa", ⟨some "a.jar", some "1"⟩⟩]
  raw := "raw"

/-- A message about jars with fewer words and more: arrays for records, a field that none knows, and
a jar that is given again with another version. -/
def looseUpdate : Json :=
  .object [("UpdateInstance", .array [.string "6b86b273", .array [
    .array [.string "aa", .null, .string "1"],
    .object [("version", .string "2"), ("hash", .string "aa"), ("size", .null)]]])]

/-- A server's message is read back, and a message written otherwise is read as before. -/
theorem plainServer_written_form_lossless :
    let sent : Message := .newInstance (.appServer plainServer)
    let update : Message := .update ⟨"6b86b273", JarSet.ofList [⟨"aa", ⟨none, some "1"⟩⟩]⟩
    sent.IsLegible ∧ ofJson? sent.toJson = some sent ∧
      ofJson? looseUpdate = some update ∧ ofJson? update.toJson = ofJson? looseUpdate := by
  intro sent update
  have legible : sent.IsLegible := by
    change Instant.ofLooseText? _ = some _
    decide +kernel
  have read : ofJson? looseUpdate = some update := rfl
  exact ⟨legible, written_form_lossless.1 sent legible, read,
    written_form_lossless.2 looseUpdate update read trivial⟩

end Message
end JarLedger
