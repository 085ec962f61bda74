import JarLedger.Proofs.Json.Equality
import JarLedger.Proofs.Snapshot.Names

/-!
# Which members of a document count

A document with a `basic` section is read from four of its members, whatever the others hold
(`Snapshot.classify_description`).  A document without one is an update, and its message is read
from the section `updated-jars` alone; but it is refused if there is an `eap` member that is no
object (`Snapshot.classify_update_iff`).
-/

namespace JarLedger

open Grammar

/-- An instance as another text of its document brings it. -/
def Instance.worded (raw : String) : Instance → Instance
  | .jvm machine => .jvm machine
  | .appServer server => .appServer { server with raw }

/-- A message as another text of its document brings it. -/
def Message.worded (raw : String) : Message → Message
  | .newInstance new => .newInstance (new.worded raw)
  | .update delta => .update delta

/-! ## What an accessor reads -/

namespace Section

variable {path : Path} {left right : Members} {name : String} {cause : ClassificationError}

theorem optional_congr (same : Json.present? left name = Json.present? right name) {result : Type}
    (expected : Expected) (convert : Json → Option result) :
    (⟨path, left⟩ : Section).optional name expected convert =
      (⟨path, right⟩ : Section).optional name expected convert := by
  simp only [optional, get?, invalid, pathOf, same]

theorem jars_congr (same : Json.present? left name = Json.present? right name) :
    (⟨path, left⟩ : Section).jars name = (⟨path, right⟩ : Section).jars name := by
  simp only [jars, get?, pathOf, same]

theorem eq_of_optional_error {part : Section} {result : Type} {expected : Expected}
    {convert : Json → Option result}
    (refused : part.optional name expected convert = .error cause) :
    cause = part.invalid name expected := by
  rw [optional] at refused
  split at refused
  · cases refused
  · split at refused
    · cases refused
    · exact (Except.error.inj refused).symm

theorem eq_of_requiredText_error {part : Section}
    (refused : part.requiredText name = .error cause) :
    cause = part.missing name ∨ cause = part.invalid name .string := by
  rcases bind_eq_error_iff.mp refused with unread | ⟨text, -, absent⟩
  · exact .inr (eq_of_optional_error unread)
  · cases text with
    | none => exact .inl (Except.error.inj absent).symm
    | some text => cases absent

theorem eq_of_jars_error {part : Section} (refused : part.jars name = .error cause) :
    cause = .invalidField (part.pathOf name) .jarList ∨
      cause = .invalidField (part.pathOf name ++ [.key "jars"]) .array := by
  rw [jars, JarList.read] at refused
  cases found : JarList.items (part.pathOf name) (part.get? name) with
  | ok items =>
      rw [found] at refused
      cases refused
  | error first =>
      rw [found] at refused
      obtain rfl : first = cause := Except.error.inj refused
      rw [JarList.items.eq_def] at found
      split at found
      · cases found
      · cases found
      · cases found
      · split at found
        · cases found
        · cases found
        · cases found
        · exact .inr (Except.error.inj found).symm
      · exact .inl (Except.error.inj found).symm

end Section

namespace Snapshot

/-! ## Descriptions -/

/-- The members that a description is read from. -/
def descriptionNames : List String := ["basic", "eap", "jars", "idHash"]

/-- Two documents agree on the members that a description is read from. -/
def DescribeAlike (left right : Members) : Prop :=
  ∀ name ∈ descriptionNames, Json.present? left name = Json.present? right name

variable {path : Path} {left right members : Members}

/-- Beside its own section a machine is read from two members of the root. -/
theorem machine_congr (named : Json.present? left "idHash" = Json.present? right "idHash")
    (listed : Json.present? left "jars" = Json.present? right "jars")
    (announcement : Announcement) (basic : Members) :
    machine announcement ⟨path, left⟩ basic = machine announcement ⟨path, right⟩ basic := by
  have linkingHash (identity : Identity) :
      linkingHashOf ⟨path, left⟩ identity = linkingHashOf ⟨path, right⟩ identity := by
    rw [linkingHashOf, Section.optText, Section.optional_congr named]
    rfl
  simp only [machine, Section.pathOf, linkingHash, Section.jars_congr listed]

/-- A server is read from its own section, and keeps the text that it is read from. -/
theorem server_worded (left right : Members) (found : Jvm) (eap : Members) (raw other : String) :
    server ⟨path, right⟩ found eap other =
      (fun server => { server with raw := other }) <$> server ⟨path, left⟩ found eap raw := by
  simp only [server, Section.pathOf, map_bind, map_pure]

theorem messageOf_description {basic : Members}
    (isBasic : Json.present? left "basic" = some (.object basic)) (alike : DescribeAlike left right)
    (announcement : Announcement) (raw other : String) :
    messageOf announcement other right =
      Message.worded other <$> messageOf announcement raw left := by
  have present : Section.optObject ⟨[], left⟩ "basic" = .ok (some basic) :=
    (Section.optObject_ok_iff _ _ _).mpr isBasic
  have same {name : String} (among : name ∈ descriptionNames) :
      Section.optObject ⟨[], right⟩ name = Section.optObject ⟨[], left⟩ name :=
    Section.optional_congr (alike name among).symm _ _
  have reread : machine announcement ⟨[], right⟩ basic = machine announcement ⟨[], left⟩ basic :=
    machine_congr (alike _ (by decide)).symm (alike _ (by decide)).symm announcement basic
  rw [messageOf, messageOf, same (by decide), same (by decide), present]
  cases Section.optObject ⟨[], left⟩ "eap" with
  | error cause => rfl
  | ok eap =>
      cases eap with
      | none =>
          simp only [bind, Except.bind, reread]
          cases machine announcement ⟨[], left⟩ basic <;> rfl
      | some eap =>
          simp only [bind, Except.bind, reread]
          cases machine announcement ⟨[], left⟩ basic with
          | error cause => rfl
          | ok found =>
              simp only [server_worded left right found eap raw other]
              cases server ⟨[], left⟩ found eap raw <;> rfl

theorem classify_of_object {announcement : Announcement} {document : String}
    (isObject : Json.read? document = some (.object members)) :
    classify announcement document =
      (messageOf announcement document members).mapError .classification := by
  rw [classify, isObject]
  rfl

/-- A document whose `basic` member is an object is read from its members `basic`, `eap`, `jars` and
`idHash` alone.  Whatever announces it, another document that agrees with it on these four is
accepted or refused for the same reason, and gives the same message but for the text that a server
keeps, which is each document's own. -/
theorem classify_description (announcement : Announcement) {document other : String}
    {others basic : Members} (isObject : Json.read? document = some (.object members))
    (otherIsObject : Json.read? other = some (.object others))
    (isBasic : Json.present? members "basic" = some (.object basic))
    (alike : DescribeAlike members others) :
    classify announcement other = Message.worded other <$> classify announcement document := by
  rw [classify_of_object isObject, classify_of_object otherIsObject,
    messageOf_description isBasic alike announcement document other]
  cases messageOf announcement document members <;> rfl

/-- A server, with an update of it and a member that nobody knows. -/
def crowdedDescription : String :=
  "\x7b\"updated-jars\":7,\"basic\":\x7b\"system.hostname\":\"h\",\"jvm.report_time\":7\x7d," ++
    "\"eap\":\x7b\"eap-version\":\"8\"\x7d,\"zone\":[\"a\"]\x7d"

/-- The server alone. -/
def bareDescription : String :=
  "\x7b\"basic\":\x7b\"system.hostname\":\"h\",\"jvm.report_time\":7\x7d," ++
    "\"eap\":\x7b\"eap-version\":\"8\"\x7d,\"jars\":null\x7d"

theorem classify_crowdedDescription :
    let announcement : Announcement := ⟨none, "o", "", none, default, none, false⟩
    ∃ members others basic, Json.read? bareDescription = some (.object members) ∧
      Json.read? crowdedDescription = some (.object others) ∧
      Json.present? members "basic" = some (.object basic) ∧ DescribeAlike members others ∧
      classify announcement crowdedDescription =
        Message.worded crowdedDescription <$> classify announcement bareDescription := by
  intro announcement
  let basic : Json := .object [("jvm.report_time", .int 7), ("system.hostname", .string "h")]
  let eap : Json := .object [("eap-version", .string "8")]
  let members : Members := [("basic", basic), ("eap", eap), ("jars", .null)]
  let others : Members := [("basic", basic), ("eap", eap), ("updated-jars", .int 7),
    ("zone", .array [.string "a"])]
  have bare : Json.read? bareDescription = some (.object members) := by decide +kernel
  have crowded : Json.read? crowdedDescription = some (.object others) := by decide +kernel
  have alike : DescribeAlike members others := by
    rw [DescribeAlike]
    decide +kernel
  exact ⟨members, others, _, bare, crowded, rfl, alike,
    classify_description announcement bare crowded rfl alike⟩

/-! ## Updates -/

/-- The message of a section `updated-jars`, from its members alone. -/
def updateOf (updated : Members) : Except IngestError Message :=
  (Message.update <$> delta ⟨[], []⟩ updated).mapError .classification

theorem updateOf_ok_iff {updated : Members} {message : Message} :
    updateOf updated = .ok message ↔
      ∃ found, delta ⟨[], []⟩ updated = .ok found ∧ message = .update found := by
  rw [updateOf]
  cases delta ⟨[], []⟩ updated <;> simp [Except.mapError, eq_comm]

theorem updateOf_error_iff {updated : Members} {failure : IngestError} :
    updateOf updated = .error failure ↔
      ∃ fault, delta ⟨[], []⟩ updated = .error fault ∧ failure = .classification fault := by
  rw [updateOf]
  cases delta ⟨[], []⟩ updated <;> simp [Except.mapError, eq_comm]

/-- What can be wrong with a section `updated-jars`. -/
def updateFaults : List ClassificationError :=
  [.missingField updateNamePlace, .invalidField updateNamePlace .string,
    .invalidField updateJarsPlace .jarList, .invalidField (updateJarsPlace ++ [.key "jars"]) .array]

theorem mem_updateFaults {root : Members} {updated : Members} {cause : ClassificationError}
    (refused : delta ⟨[], root⟩ updated = .error cause) : cause ∈ updateFaults := by
  rcases bind_eq_error_iff.mp refused with unnamed | ⟨name, -, rest⟩
  · rcases Section.eq_of_requiredText_error unnamed with rfl | rfl
    · exact List.mem_cons_self
    · exact List.mem_cons_of_mem _ List.mem_cons_self
  · dsimp only at rest
    split at rest
    · obtain rfl := Except.error.inj rest
      exact List.mem_cons_self
    · rcases bind_eq_error_iff.mp rest with unlisted | ⟨_, _, done⟩
      · rcases Section.eq_of_jars_error unlisted with rfl | rfl
        · exact List.mem_cons_of_mem _ (List.mem_cons_of_mem _ List.mem_cons_self)
        · simp [updateFaults, updateJarsPlace, Section.pathOf]
      · cases done

/-- A document with an update is read from the section of the update, once `eap` is looked at. -/
theorem classify_of_update (announcement : Announcement) {document : String} {updated : Members}
    (isObject : Json.read? document = some (.object members))
    (noBasic : Json.present? members "basic" = none)
    (isUpdated : Json.present? members "updated-jars" = some (.object updated)) :
    classify announcement document =
      (Section.optObject ⟨[], members⟩ "eap" >>= fun _ =>
        Message.update <$> delta ⟨[], []⟩ updated).mapError .classification := by
  have absent : Section.optObject ⟨[], members⟩ "basic" = .ok none :=
    (Section.optObject_ok_iff _ _ _).mpr noBasic
  have present : Section.optObject ⟨[], members⟩ "updated-jars" = .ok (some updated) :=
    (Section.optObject_ok_iff _ _ _).mpr isUpdated
  have alone : delta ⟨[], members⟩ updated = delta ⟨[], []⟩ updated := rfl
  rw [classify_of_object isObject, messageOf, absent]
  cases Section.optObject ⟨[], members⟩ "eap" with
  | error cause => rfl
  | ok eap =>
      simp only [bind, Except.bind, present, alone]
      cases delta ⟨[], []⟩ updated <;> rfl

/-- An object may stand under `eap`, or nothing; anything else is refused. -/
theorem optObject_eap_error (members : Members) :
    (∃ eap, Section.optObject ⟨[], members⟩ "eap" = .ok eap) ∨
      Section.optObject ⟨[], members⟩ "eap" = .error (.invalidField [.key "eap"] .object) := by
  cases found : Section.optObject ⟨[], members⟩ "eap" with
  | ok eap => exact .inl ⟨eap, rfl⟩
  | error cause => exact .inr (congrArg Except.error (Section.eq_of_optional_error found))

/-- A document without a `basic` section that has an object under `updated-jars` is read as an
update from that section alone, whatever announces it, exactly if what stands under `eap` is an
object, `null` or nothing; else it is refused for that.  The section gives a message exactly if it
is well formed, an update with its name and its jars, and else a fault of its own. -/
theorem classify_update_iff (announcement : Announcement) {document : String} {updated : Members}
    (isObject : Json.read? document = some (.object members))
    (noBasic : Json.present? members "basic" = none)
    (isUpdated : Json.present? members "updated-jars" = some (.object updated)) :
    (classify announcement document = updateOf updated ↔
      May members "eap" (IsObject fun _ => True)) ∧
    (¬May members "eap" (IsObject fun _ => True) → classify announcement document =
      .error (.classification (.invalidField [.key "eap"] .object))) ∧
    ((∃ message, updateOf updated = .ok message) ↔ IsUpdate updated) ∧
    (∀ message, updateOf updated = .ok message → ∃ found, message = .update found ∧
      Json.nameAt? [.key "idHash"] (.object updated) = some found.linkingHash ∧
      found.jars = JarList.ofItems (Json.entriesAt [.key "jars"] (.object updated))) ∧
    (∀ failure, updateOf updated = .error failure →
      ∃ fault ∈ updateFaults, failure = .classification fault) := by
  have read := classify_of_update announcement isObject noBasic isUpdated
  have faults (failure : IngestError) (refused : updateOf updated = .error failure) :
      ∃ fault ∈ updateFaults, failure = .classification fault := by
    obtain ⟨fault, found, rfl⟩ := updateOf_error_iff.mp refused
    exact ⟨fault, mem_updateFaults found, rfl⟩
  have shaped := Section.exists_optObject ⟨[], members⟩ "eap"
  refine ⟨?_, fun mistyped => ?_, ?_, fun message accepted => ?_, faults⟩
  · rw [← shaped]
    constructor
    · intro same
      rcases optObject_eap_error members with readable | refused
      · exact readable
      · -- The fault of `eap` is none of those of the section.
        rw [refused] at read
        obtain ⟨fault, among, equal⟩ := faults _ (same.symm.trans read)
        cases equal
        exact absurd among (by decide)
    · rintro ⟨eap, readable⟩
      rw [read, readable]
      rfl
  · rcases optObject_eap_error members with readable | refused
    · exact absurd (shaped.mp readable) mistyped
    · rw [read, refused]
      rfl
  · simp only [updateOf_ok_iff, ← exists_delta ⟨[], []⟩ updated]
    exact ⟨fun ⟨_, found, read, _⟩ => ⟨found, read⟩, fun ⟨found, read⟩ => ⟨_, found, read, rfl⟩⟩
  · obtain ⟨found, told, rfl⟩ := updateOf_ok_iff.mp accepted
    exact ⟨found, rfl, told_of_delta told⟩

/-- An update, with a member under `eap` that is no object. -/
def mistypedBeside : String := "\x7b\"eap\":3,\"updated-jars\":\x7b\"idHash\":\"h\"\x7d\x7d"

theorem classify_mistypedBeside :
    let announcement : Announcement := ⟨none, "o", "", none, default, none, false⟩
    ∃ members updated, Json.read? mistypedBeside = some (.object members) ∧
      Json.present? members "basic" = none ∧
      Json.present? members "updated-jars" = some (.object updated) ∧ IsUpdate updated ∧
      classify announcement mistypedBeside =
        .error (.classification (.invalidField [.key "eap"] .object)) := by
  intro announcement
  let updated : Members := [("idHash", .string "h")]
  let members : Members := [("eap", .int 3), ("updated-jars", .object updated)]
  have read : Json.read? mistypedBeside = some (.object members) := by decide +kernel
  have isUpdated : Json.present? members "updated-jars" = some (.object updated) := rfl
  obtain ⟨-, refused, wellFormed, -⟩ := classify_update_iff announcement read rfl isUpdated
  have accepted : (updateOf updated).toOption.isSome = true := by decide +kernel
  have mistyped : ¬May members "eap" (IsObject fun _ => True) := by
    intro right
    obtain ⟨_, isObject, -⟩ := right (.int 3) rfl
    cases isObject
  refine ⟨members, updated, read, rfl, isUpdated, wellFormed.mp ?_, refused mistyped⟩
  obtain ⟨message, found⟩ := Option.isSome_iff_exists.mp accepted
  exact ⟨message, toOption_eq_some_iff.mp found⟩

/-- Beside something else under `eap` an update is lost. -/
theorem not_classify_update :
    ¬∀ (announcement : Announcement) (document : String) (members updated : Members),
      Json.read? document = some (.object members) → Json.present? members "basic" = none →
        Json.present? members "updated-jars" = some (.object updated) →
          classify announcement document = updateOf updated := by
  intro always
  let updated : Members := [("idHash", .string "h")]
  let members : Members := [("eap", .int 3), ("updated-jars", .object updated)]
  have same := always ⟨none, "o", "", none, default, none, false⟩ mistypedBeside members updated
    (by decide +kernel) rfl rfl
  have accepted : (updateOf updated).toOption.isSome = true := by decide +kernel
  rw [← same] at accepted
  exact absurd accepted (by decide +kernel)

end Snapshot
end JarLedger
