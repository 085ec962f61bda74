import JarLedger.Proofs.Snapshot.Fields
import JarLedger.Snapshot.Classification

/-!
# Which documents are accepted

A document is classified exactly if the grammar describes it, and the message has the shape that
the grammar gives it (`Snapshot.classify_accepts_iff`).  Every part of a document is read by a
sequence of accessors, so what a part accepts is the conjunction of what they accept.
-/

namespace JarLedger

open Grammar

/-- The shape of what a message describes. -/
def Message.shape : Message → Shape
  | .newInstance (.jvm _) => .machine
  | .newInstance (.appServer _) => .server
  | .update _ => .update

namespace Snapshot

variable (root part : Section)

theorem exists_linkingHashOf (identity : Identity) :
    (∃ hash, linkingHashOf root identity = .ok hash) ↔ May root.members "idHash" IsText := by
  rw [linkingHashOf, exists_ok_bind, ← Section.exists_optText]
  refine exists_congr fun found => and_iff_left ?_
  cases found <;> exact ⟨_, rfl⟩

theorem exists_machine (announcement : Announcement) (basic : Members) :
    (∃ found, machine announcement root basic = .ok found) ↔ IsMachine root.members basic := by
  simp only [machine, exists_ok_bind, exists_ok_pure, exists_linkingHashOf, Section.exists_optText,
    Section.exists_requiredText, Section.exists_optInt64, Section.exists_requiredInt64,
    Section.exists_optInt32, Section.exists_jars, exists_and_right, and_true, isMachine_iff]

theorem exists_deployment (path : Path) (item : Json) :
    (∃ found, deployment path item = .ok found) ↔ IsObject IsDeployment item := by
  refine Section.exists_ofItem fun members => ?_
  simp only [exists_ok_bind, exists_ok_pure, Section.exists_optText, Section.exists_requiredText,
    Section.exists_optBool, Section.exists_jars, exists_and_right, and_true, isDeployment_iff]

theorem exists_extensionSubsystem (path : Path) (item : Json) :
    (∃ found, extensionSubsystem path item = .ok found) ↔ IsObject IsExtensionSubsystem item := by
  refine Section.exists_ofItem fun members => ?_
  simp only [exists_ok_bind, exists_ok_pure, Section.exists_requiredText, Section.exists_optInt32,
    exists_and_right, and_true, isExtensionSubsystem_iff]

theorem exists_extensionOf (path : Path) (item : Json) :
    (∃ found, extensionOf path item = .ok found) ↔ IsObject IsExtension item := by
  refine Section.exists_ofItem fun members => ?_
  simp only [exists_ok_bind, exists_ok_pure, ← and_assoc, exists_and_right, and_true,
    Section.exists_readItems _ _ exists_extensionSubsystem, Section.exists_requiredText,
    isExtension_iff]

theorem exists_descriptors :
    (∃ found, descriptors part = .ok found) ↔
      ∀ name ∈ descriptorNames, May part.members name IsText := by
  simp only [descriptors, exists_ok_bind, exists_ok_pure, Section.exists_optText, exists_and_right,
    and_true, descriptorNames, List.forall_mem_cons, List.not_mem_nil, false_imp_iff, implies_true]

theorem exists_configuration :
    (∃ found, configuration part = .ok found) ↔ IsConfiguration part.members := by
  simp only [configuration, exists_ok_bind, exists_ok_pure, ← and_assoc, exists_and_right, and_true,
    Section.exists_readItems _ _ exists_deployment, Section.exists_readItems _ _ exists_extensionOf,
    exists_descriptors, Section.exists_optObject, isConfiguration_iff]

theorem exists_optConfiguration :
    (∃ found, optConfiguration part = .ok found) ↔
      May part.members "eap-configuration" (IsObject IsConfiguration) := by
  rw [optConfiguration, Section.exists_optObject_bind]
  simp only [exists_ok_pure, exists_ok_map, exists_configuration, and_true, May, IsObject]
  cases Json.present? part.members "eap-configuration" <;> simp

theorem exists_server (machine : Jvm) (eap : Members) (raw : String) :
    (∃ found, server root machine eap raw = .ok found) ↔ IsServer eap := by
  simp only [server, exists_ok_bind, exists_ok_pure, exists_and_right, and_true,
    exists_optConfiguration, Section.exists_optText, Section.exists_optBool, Section.exists_jars,
    isServer_iff, flagNames, List.forall_mem_cons, List.not_mem_nil, false_imp_iff, implies_true,
    and_assoc]

theorem exists_delta (updated : Members) :
    (∃ found, delta root updated = .ok found) ↔ IsUpdate updated := by
  let part : Section := ⟨root.pathOf "updated-jars", updated⟩
  have jars : (∃ jars, part.jars "jars" = .ok jars) ↔ May updated "jars" IsJarList :=
    part.exists_jars "jars"
  rw [isUpdate_iff, ← part.exists_requiredText_ne_empty "idHash", ← jars, delta, exists_ok_bind,
    ← exists_and_right]
  refine exists_congr fun hash => ?_
  rw [and_assoc]
  refine and_congr_right fun _ => ?_
  by_cases empty : hash = ""
  · subst empty
    exact iff_of_false nofun fun ⟨full, _⟩ => full rfl
  · have read : (∃ found, Delta.mk hash <$> part.jars "jars" = .ok found) ↔
        ∃ jars, part.jars "jars" = .ok jars := exists_ok_map
    simpa [empty] using read

/-- How a message is read from the members of a document. -/
inductive Reads (announcement : Announcement) (raw : String) (members : Members) : Message → Prop
  | machine {basic : Members} {found : Jvm}
      (isBasic : Json.present? members "basic" = some (.object basic))
      (noServer : Json.present? members "eap" = none)
      (readMachine : Snapshot.machine announcement ⟨[], members⟩ basic = .ok found) :
      Reads announcement raw members (.newInstance (.jvm found))
  | server {basic eap : Members} {found : Jvm} {server : AppServer}
      (isBasic : Json.present? members "basic" = some (.object basic))
      (isServer : Json.present? members "eap" = some (.object eap))
      (readMachine : Snapshot.machine announcement ⟨[], members⟩ basic = .ok found)
      (readServer : Snapshot.server ⟨[], members⟩ found eap raw = .ok server) :
      Reads announcement raw members (.newInstance (.appServer server))
  | update {updated : Members} {eap : Option Members} {delta : Delta}
      (noBasic : Json.present? members "basic" = none)
      (readEap : Section.optObject ⟨[], members⟩ "eap" = .ok eap)
      (isUpdated : Json.present? members "updated-jars" = some (.object updated))
      (readDelta : Snapshot.delta ⟨[], members⟩ updated = .ok delta) :
      Reads announcement raw members (.update delta)

theorem reads_of_messageOf {announcement : Announcement} {raw : String} {members : Members}
    {message : Message} (read : messageOf announcement raw members = .ok message) :
    Reads announcement raw members message := by
  obtain ⟨basic, readBasic, read⟩ := bind_eq_ok_iff.mp read
  obtain ⟨eap, readEap, read⟩ := bind_eq_ok_iff.mp read
  have isBasic := (Section.optObject_ok_iff _ _ _).mp readBasic
  have isEap := (Section.optObject_ok_iff _ _ _).mp readEap
  rcases basic with _ | basic
  · obtain ⟨updated, readUpdated, read⟩ := bind_eq_ok_iff.mp read
    have isUpdated := (Section.optObject_ok_iff _ _ _).mp readUpdated
    rcases updated with _ | updated
    · exact absurd read nofun
    · obtain ⟨delta, readDelta, same⟩ := bind_eq_ok_iff.mp read
      cases same
      exact .update isBasic readEap isUpdated readDelta
  · rcases eap with _ | eap
    · obtain ⟨machine, readMachine, same⟩ := bind_eq_ok_iff.mp read
      cases same
      exact .machine isBasic isEap readMachine
    · obtain ⟨machine, readMachine, read⟩ := bind_eq_ok_iff.mp read
      obtain ⟨server, readServer, same⟩ := bind_eq_ok_iff.mp read
      cases same
      exact .server isBasic isEap readMachine readServer

theorem describes_of_messageOf {announcement : Announcement} {raw : String} {members : Members}
    {message : Message} (read : messageOf announcement raw members = .ok message) :
    Describes members message.shape := by
  cases reads_of_messageOf read with
  | machine isBasic noServer readMachine =>
      exact .machine isBasic noServer ((exists_machine _ _ _).mp ⟨_, readMachine⟩)
  | server isBasic isServer readMachine readServer =>
      exact .server isBasic isServer ((exists_machine _ _ _).mp ⟨_, readMachine⟩)
        ((exists_server _ _ _ _).mp ⟨_, readServer⟩)
  | update noBasic readEap isUpdated readDelta =>
      exact .update noBasic ((Section.exists_optObject _ _).mp ⟨_, readEap⟩) isUpdated
        ((exists_delta _ _).mp ⟨_, readDelta⟩)

theorem exists_messageOf_of_describes (announcement : Announcement) (raw : String)
    {members : Members} {shape : Shape} (describes : Describes members shape) :
    ∃ message, messageOf announcement raw members = .ok message ∧ message.shape = shape := by
  let root : Section := ⟨[], members⟩
  have present {name : String} {inner : Members}
      (found : Json.present? members name = some (.object inner)) :
      root.optObject name = .ok (some inner) := (root.optObject_ok_iff name _).mpr found
  have absent {name : String} (found : Json.present? members name = none) :
      root.optObject name = .ok none := (root.optObject_ok_iff name _).mpr found
  cases describes with
  | machine isBasic noServer isMachine =>
      obtain ⟨machine, readMachine⟩ := (exists_machine root announcement _).mpr isMachine
      refine ⟨.newInstance (.jvm machine), ?_, rfl⟩
      exact bind_eq_ok (present isBasic) (bind_eq_ok (absent noServer) (bind_eq_ok readMachine rfl))
  | server isBasic isServer isMachine describesServer =>
      obtain ⟨machine, readMachine⟩ := (exists_machine root announcement _).mpr isMachine
      obtain ⟨server, readServer⟩ := (exists_server root machine _ raw).mpr describesServer
      refine ⟨.newInstance (.appServer server), ?_, rfl⟩
      exact bind_eq_ok (present isBasic) (bind_eq_ok (present isServer)
        (bind_eq_ok readMachine (bind_eq_ok readServer rfl)))
  | update noBasic eap isUpdated describesUpdate =>
      obtain ⟨eap, readEap⟩ := (root.exists_optObject "eap").mpr eap
      obtain ⟨delta, readDelta⟩ := (exists_delta root _).mpr describesUpdate
      refine ⟨.update delta, ?_, rfl⟩
      exact bind_eq_ok (absent noBasic) (bind_eq_ok readEap
        (bind_eq_ok (present isUpdated) (bind_eq_ok readDelta rfl)))

theorem exists_messageOf_iff (announcement : Announcement) (raw : String) (members : Members)
    (shape : Shape) :
    (∃ message, messageOf announcement raw members = .ok message ∧ message.shape = shape) ↔
      Describes members shape := by
  refine ⟨?_, exists_messageOf_of_describes announcement raw⟩
  rintro ⟨message, read, rfl⟩
  exact describes_of_messageOf read

/-- Only a document that is a JSON object is accepted, as what its members say. -/
theorem classify_ok_iff (announcement : Announcement) (document : String) (message : Message) :
    classify announcement document = .ok message ↔
      ∃ members, Json.read? document = some (.object members) ∧
        messageOf announcement document members = .ok message := by
  rw [classify]
  cases Json.read? document with
  | none => exact iff_of_false nofun nofun
  | some value =>
      cases value with
      | object members =>
          cases found : messageOf announcement document members <;>
            simp [classifyJson, found, Except.mapError]
      | _ => exact iff_of_false nofun nofun

/-- A document that is a JSON object is accepted exactly if the grammar describes it, whatever
announced it, and the message has the shape that the grammar gives it. -/
theorem classify_accepts_iff (announcement : Announcement) (document : String) (members : Members)
    (isObject : Json.read? document = some (.object members)) :
    (∀ shape, (∃ message, classify announcement document = .ok message ∧ message.shape = shape) ↔
      Describes members shape) ∧
    ((∃ message, classify announcement document = .ok message) ↔
      ∃ shape, Describes members shape) := by
  have read (message : Message) :
      classify announcement document = .ok message ↔
        messageOf announcement document members = .ok message := by
    rw [classify_ok_iff, isObject]
    simp
  simp only [read, ← exists_messageOf_iff announcement document]
  refine ⟨fun _ => trivial, fun ⟨message, found⟩ => ⟨message.shape, message, found, rfl⟩, ?_⟩
  rintro ⟨_, message, found, _⟩
  exact ⟨message, found⟩

/-- A server that is told in lenient spellings. -/
def lenientServer : String :=
  "\x7b\"basic\": \x7b\"system.hostname\": true, \"jvm.report_time\": \" +7\\u00a0\"\x7d, " ++
    "\"eap\": \x7b\"eap-xp\": \"TrUe\", \"eap-configuration\": " ++
    "\x7b\"deployments\": [\x7b\"name\": false\x7d]\x7d\x7d\x7d"

theorem describes_lenientServer :
    let announcement : Announcement := ⟨none, "o", "", none, default, none, false⟩
    ∃ members, Json.read? lenientServer = some (.object members) ∧
      (∃ message, classify announcement lenientServer = .ok message ∧ message.shape = .server) ∧
        Describes members .server := by
  intro announcement
  have evaluated : (classify announcement lenientServer).toOption.map Message.shape =
      some .server := by decide +kernel
  obtain ⟨message, accepted, isServer⟩ := Option.map_eq_some_iff.mp evaluated
  rw [toOption_eq_some_iff] at accepted
  obtain ⟨members, isObject, -⟩ := (classify_ok_iff _ _ _).mp accepted
  have shaped := (classify_accepts_iff announcement lenientServer members isObject).1 .server
  have found : ∃ message, classify announcement lenientServer = .ok message ∧
      message.shape = .server := ⟨message, accepted, isServer⟩
  exact ⟨members, isObject, found, shaped.mp found⟩

end Snapshot
end JarLedger
