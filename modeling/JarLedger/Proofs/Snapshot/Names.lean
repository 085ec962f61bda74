import JarLedger.Proofs.Snapshot.Positions

/-!
# Names in documents

A new instance and an update tell whom they are about in different places of a document.  Both
places are read alike: a scalar that is not empty is the name as its text.  Without a name of its
own a new instance has the one that is computed from its fields
(`Snapshot.linkingHash_of_messageOf`), while an update has to give one
(`Snapshot.delta_of_messageOf`).
-/

namespace JarLedger

/-- The text of the scalar at a place, if one stands there and its text is not empty. -/
def Json.nameAt? (place : Path) (document : Json) : Option String :=
  ((document.at? place).bind Section.scalarText?).filter fun text => !text.isEmpty

namespace Json

variable {members : List (String × Json)} {name : String} {value : Json}

theorem at?_of_present (present : present? members name = some value) (rest : Path) :
    at? (.key name :: rest) (.object members) = at? rest value := by
  rw [at?, (Option.filter_eq_some_iff.mp present).1, Option.bind_some]

/-- To a reading that takes nothing from a `null`, a `null` is as good as nothing. -/
theorem at?_bind_of_absent {result : Type} {convert : Json → Option result}
    (silent : convert .null = none) (absent : present? members name = none) :
    (at? [.key name] (.object members)).bind convert = none := by
  rw [at?]
  cases found : members.lookup name with
  | none => rfl
  | some value =>
      cases value with
      | null => exact silent
      | _ => simp [present?, found, isNull] at absent

theorem nameAt?_of_present (present : present? members name = some value) (rest : Path) :
    nameAt? (.key name :: rest) (.object members) = nameAt? rest value := by
  rw [nameAt?, nameAt?, at?_of_present present]

theorem nameAt?_eq_some_iff {place : Path} {document : Json} :
    document.nameAt? place = some name ↔
      (document.at? place).bind Section.scalarText? = some name ∧ name ≠ "" := by
  simp [nameAt?, Option.filter_eq_some_iff]

end Json

open Grammar

/-- What an optional member tells is read from the value at its place. -/
theorem Section.eq_of_optional {part : Section} {name : String} {result : Type}
    {expected : Expected} {convert : Json → Option result} {found : Option result}
    (silent : convert .null = none) (read : part.optional name expected convert = .ok found) :
    found = (Json.at? [.key name] (.object part.members)).bind convert := by
  rw [optional, get?] at read
  cases present : Json.present? part.members name with
  | none =>
      rw [present] at read
      rw [Json.at?_bind_of_absent silent present]
      exact (Except.ok.inj read).symm
  | some value =>
      rw [present] at read
      rw [Json.at?_of_present present, Json.at?, Option.bind_some]
      cases converted : convert value with
      | none => simp [converted] at read
      | some told =>
          simp only [converted, Except.ok.injEq] at read
          exact read.symm

/-- A text that is read from a member and not empty is the name at the member's place. -/
theorem Section.filter_optText {part : Section} {name : String} {found : Option String}
    (read : part.optText name = .ok found) :
    (found.filter fun text => !text.isEmpty) =
      Json.nameAt? [.key name] (.object part.members) := by
  rw [Json.nameAt?, ← eq_of_optional rfl read]

/-- The fields that identify a machine. -/
def Jvm.identity (machine : Jvm) : Identity where
  hostname := machine.hostname
  launchTime := machine.launchTime
  vendor := machine.vendor
  versionString := machine.versionString
  javaHome := machine.javaHome
  pid := machine.pid

namespace Snapshot

/-- Place of the name of a new instance. -/
def namePlace : Path := [.key "idHash"]

/-- Place of the name that an update is about. -/
def updateNamePlace : Path := [.key "updated-jars", .key "idHash"]

/-- Place of the jars that an update brings. -/
def updateJarsPlace : Path := [.key "updated-jars", .key "jars"]

theorem linkingHash_of_machine {announcement : Announcement} {root : Section} {basic : Members}
    {found : Jvm} (read : machine announcement root basic = .ok found) :
    found.linkingHash =
      (Json.nameAt? namePlace (.object root.members)).getD found.identity.linkingHash := by
  simp only [machine, bind_eq_ok_iff] at read
  obtain ⟨_, -, _, -, _, -, _, -, _, -, _, -, name, named, _, -, _, -, _, -, _, -, _, -, _, -,
    same⟩ := read
  cases same
  obtain ⟨given, readGiven, chosen⟩ := bind_eq_ok_iff.mp named
  rw [namePlace, ← Section.filter_optText readGiven]
  cases given with
  | none => exact (Except.ok.inj chosen).symm
  | some given =>
      rw [← Except.ok.inj chosen, Option.filter_some]
      cases given.isEmpty <;> rfl

/-- The name of a new instance is given in the document, or else computed from its fields. -/
theorem linkingHash_of_messageOf {announcement : Announcement} {raw : String} {members : Members}
    {new : Instance} (read : messageOf announcement raw members = .ok (.newInstance new)) :
    new.linkingHash =
      (Json.nameAt? namePlace (.object members)).getD new.machine.identity.linkingHash := by
  cases reads_of_messageOf read with
  | machine isBasic noServer readMachine => exact linkingHash_of_machine readMachine
  | server isBasic isServer readMachine readServer =>
      rw [Instance.linkingHash, Instance.machine, (jars_of_server readServer).1]
      exact linkingHash_of_machine readMachine

/-- A document without a `basic` section does not bring a new instance. -/
theorem exists_delta_of_bare {announcement : Announcement} {raw : String} {members : Members}
    {message : Message} (bare : Json.present? members "basic" = none)
    (read : messageOf announcement raw members = .ok message) :
    ∃ delta, message = .update delta := by
  cases reads_of_messageOf read with
  | machine isBasic => cases bare.symm.trans isBasic
  | server isBasic => cases bare.symm.trans isBasic
  | update => exact ⟨_, rfl⟩

/-- A section that describes an update gives a name, and the jars of the list beside it. -/
theorem told_of_delta {root : Section} {updated : Members} {found : Delta}
    (read : delta root updated = .ok found) :
    Json.nameAt? [.key "idHash"] (.object updated) = some found.linkingHash ∧
      found.jars = JarList.ofItems (Json.entriesAt [.key "jars"] (.object updated)) := by
  obtain ⟨name, named, read⟩ := bind_eq_ok_iff.mp read
  by_cases empty : name = ""
  · subst empty
    exact absurd read nofun
  · obtain ⟨value, present, text⟩ := (Section.requiredText_ok_iff _ _ _).mp named
    obtain ⟨jars, inside, same⟩ : ∃ jars,
        (⟨_, updated⟩ : Section).jars "jars" = .ok jars ∧ Delta.mk name jars = found := by
      simpa [empty, map_eq_ok_iff] using read
    cases same
    refine ⟨?_, Section.jars_eq inside⟩
    rw [Json.nameAt?_of_present present, Json.nameAt?_eq_some_iff]
    exact ⟨text, empty⟩

/-- An update gives the name that it is about, and the jars of the list beside it. -/
theorem delta_of_messageOf {announcement : Announcement} {raw : String} {members : Members}
    {found : Delta} (read : messageOf announcement raw members = .ok (.update found)) :
    Json.nameAt? updateNamePlace (.object members) = some found.linkingHash ∧
      found.jars = JarList.ofItems (Json.entriesAt updateJarsPlace (.object members)) := by
  cases reads_of_messageOf read with
  | @update updated _ _ noBasic readEap isUpdated readDelta =>
      rw [updateNamePlace, updateJarsPlace, Json.nameAt?_of_present isUpdated,
        Json.entriesAt_of_present isUpdated]
      exact told_of_delta readDelta

end Snapshot
end JarLedger
