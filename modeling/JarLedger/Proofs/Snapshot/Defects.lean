import JarLedger.Proofs.Snapshot.Influence

/-!
# Refusals point at defects

A document that is refused is refused for a place: either what has to stand there does not, or what
stands there is not what is expected (`Points`).  An attempt that fails for such reasons alone
`Blames` the document.  Accessors do, attempts in sequence do, and so does all that is made of them
(`Snapshot.classify_points`).  Only an item of an array can be refused for being `null`; a member
that is `null` counts as absent.
-/

namespace JarLedger

open Grammar

/-! ## Places written out -/

/-- A step as it is written after others. -/
def Step.text : Step → String
  | .key name => "." ++ name
  | .index position => "[" ++ toString position ++ "]"

/-- A place written out: its first name, then every step after it. -/
def Path.dotted : Path → String
  | [] => ""
  | .key name :: rest => name ++ String.join (rest.map Step.text)
  | .index position :: rest => (Step.index position).text ++ String.join (rest.map Step.text)

/-- A place inside a document begins with a name. -/
def Path.IsInner (place : Path) : Prop := ∃ name rest, place = .key name :: rest ∧ name ≠ ""

theorem Path.IsInner.append {place : Path} (inner : place.IsInner) (rest : Path) :
    Path.IsInner (place ++ rest) := by
  obtain ⟨name, later, rfl, full⟩ := inner
  exact ⟨name, later ++ rest, rfl, full⟩

/-- The text of a place is the place written out. -/
theorem Path.IsInner.dotted_eq {place : Path} (inner : place.IsInner) :
    place.dotted = place.text := by
  obtain ⟨name, rest, rfl, full⟩ := inner
  let step (text : String) (step : Step) : String :=
    match step with
    | .key name => if text.isEmpty then name else text ++ "." ++ name
    | .index position => text ++ "[" ++ toString position ++ "]"
  have later (front : String) (full : front ≠ "") :
      rest.foldl step front = front ++ String.join (rest.map Step.text) := by
    induction rest generalizing front with
    | nil => simp
    | cons next rest ih =>
        have goesOn : step front next = front ++ next.text := by
          cases next <;> simp [step, Step.text, full, String.append_assoc]
        rw [List.foldl_cons, goesOn, ih _ (by simp [full]), List.map_cons, String.join_cons,
          String.append_assoc]
  have first : Path.text (.key name :: rest) = rest.foldl step (step "" (.key name)) := rfl
  rw [dotted, first]
  exact (later name full).symm

/-! ## Defects -/

/-- What a value has to be, in any of its spellings. -/
def Expected.Allows : Expected → Json → Prop
  | .string => IsText
  | .integer => IsInteger 64
  | .integer32 => IsInteger 32
  | .boolean => IsTruth
  | .object => IsObject fun _ => True
  | .array => IsArray fun _ => True
  | .jarList => fun value => IsArray (fun _ => True) value ∨ IsObject (fun _ => True) value

namespace Snapshot

/-- Place of the configuration of a server. -/
def configurationPlace : Path := [.key "eap", .key "eap-configuration"]

/-- Place of the extensions. -/
def extensionsPlace : Path := configurationPlace ++ [.key "extensions"]

/-- Place of the subsystems of an extension. -/
def subsystemsPlace (position : Nat) : Path :=
  extensionsPlace ++ [.index position, .key "subsystems"]

/-- An item of one of the arrays whose items have to be objects. -/
inductive IsItemPlace : Path → Prop
  | deployment (position : Nat) : IsItemPlace (deploymentsPlace ++ [.index position])
  | extension (position : Nat) : IsItemPlace (extensionsPlace ++ [.index position])
  | subsystem (position inner : Nat) : IsItemPlace (subsystemsPlace position ++ [.index inner])

end Snapshot

open Snapshot

/-- A refusal tells a place by its text, and there the document is not what it has to be.  A member
that has to be there is absent or `null`, or else it is the empty name of an update.  What is not of
the kind expected is there; it is `null` only as an item that has to be an object. -/
inductive Points (document : Json) : ClassificationError → Prop
  | absent {path front : Path} {name : String} {members : Members}
      (told : Path.dotted (front ++ [.key name]) = path.text)
      (inside : document.at? front = some (.object members))
      (lacks : members.lookup name = none ∨ members.lookup name = some .null) :
      Points document (.missingField path)
  | unnamed {path : Path} (told : updateNamePlace.dotted = path.text)
      (empty : document.at? updateNamePlace = some (.string "")) :
      Points document (.missingField path)
  | mistyped {path place : Path} {value : Json} {expected : Expected}
      (told : place.dotted = path.text) (stands : document.at? place = some value)
      (null : value = .null → expected = .object ∧ IsItemPlace place)
      (wrong : ¬expected.Allows value) :
      Points document (.invalidField path expected)
  | shapeless {members : Members} (isObject : document = .object members)
      (noBasic : Json.present? members "basic" = none)
      (noUpdate : Json.present? members "updated-jars" = none)
      (eap : May members "eap" (IsObject fun _ => True)) :
      Points document .unrecognizedShape

/-- An attempt fails only for what is wrong in a document. -/
def Blames {α : Type} (document : Json) (attempt : Except ClassificationError α) : Prop :=
  ∀ cause, attempt = .error cause → Points document cause

namespace Blames

variable {document : Json} {α β : Type}

theorem ok (value : α) : Blames document (.ok value) := nofun

theorem bind {attempt : Except ClassificationError α} {next : α → Except ClassificationError β}
    (first : Blames document attempt)
    (later : ∀ value, attempt = .ok value → Blames document (next value)) :
    Blames document (attempt >>= next) := by
  intro cause refused
  rcases bind_eq_error_iff.mp refused with early | ⟨value, came, late⟩
  · exact first cause early
  · exact later value came cause late

theorem map {attempt : Except ClassificationError α} (blames : Blames document attempt)
    (convert : α → β) : Blames document (convert <$> attempt) :=
  blames.bind fun _ _ => ok _

theorem mapM {read : α → Except ClassificationError β} {items : List α}
    (each : ∀ item ∈ items, Blames document (read item)) : Blames document (items.mapM read) := by
  induction items with
  | nil => exact ok []
  | cons item rest ih =>
      rw [List.mapM_cons]
      exact (each item List.mem_cons_self).bind fun _ _ =>
        (ih fun other member => each other (List.mem_cons_of_mem _ member)).bind fun _ _ => ok _

end Blames

/-! ## Accessors -/

section Found

variable {part : Section} {name : String} {expected : Expected} {α : Type}
  {convert : Json → Option α}

theorem Section.absent_of_optional (came : part.optional name expected convert = .ok none) :
    Json.present? part.members name = none := by
  rw [optional, get?] at came
  split at came
  · assumption
  · split at came <;> cases came

theorem Section.present_of_optional {result : α}
    (came : part.optional name expected convert = .ok (some result)) :
    ∃ value, Json.present? part.members name = some value ∧ convert value = some result := by
  rw [optional, get?] at came
  split at came
  · cases came
  · rename_i value present
    split at came
    · cases came
      exact ⟨value, present, by assumption⟩
    · cases came

end Found

/-- A section stands in a document at its place, which is the root or inside. -/
structure Section.StandsIn (part : Section) (document : Json) : Prop where
  found : document.at? part.path = some (.object part.members)
  inner : part.path = [] ∨ part.path.IsInner

namespace Section.StandsIn

variable {part : Section} {document : Json} (stands : part.StandsIn document) (name : String)
  {α : Type}
include stands

theorem at?_pathOf : document.at? (part.pathOf name) = part.members.lookup name := by
  rw [pathOf, Json.at?_append, stands.found]
  simp [Json.at?]

theorem at?_of_present {value : Json} (present : Json.present? part.members name = some value) :
    document.at? (part.pathOf name) = some value := by
  rw [stands.at?_pathOf, (Option.filter_eq_some_iff.mp present).1]

variable (full : name.isEmpty = false)
include full

theorem isInner_pathOf : Path.IsInner (part.pathOf name) := by
  rcases stands.inner with root | inner
  · refine ⟨name, [], by simp [pathOf, root], ?_⟩
    rintro rfl
    cases full
  · exact inner.append _

/-- An object in a section is a section. -/
theorem member {members : Members}
    (present : Json.present? part.members name = some (.object members)) :
    Section.StandsIn ⟨part.pathOf name, members⟩ document where
  found := stands.at?_of_present name present
  inner := .inr (stands.isInner_pathOf name full)

theorem points_missing (absent : Json.present? part.members name = none) :
    Points document (part.missing name) := by
  refine .absent (stands.isInner_pathOf name full).dotted_eq stands.found ?_
  cases found : part.members.lookup name with
  | none => exact .inl rfl
  | some value => cases value <;> simp_all [Json.present?, Json.isNull]

theorem points_invalid {value : Json} (expected : Expected)
    (present : Json.present? part.members name = some value) (wrong : ¬expected.Allows value) :
    Points document (part.invalid name expected) := by
  refine .mistyped (stands.isInner_pathOf name full).dotted_eq
    (stands.at?_of_present name present) (fun null => ?_) wrong
  subst null
  exact absurd (Option.filter_eq_some_iff.mp present).2 (by decide)

theorem blames_optional {expected : Expected} {convert : Json → Option α}
    (reads : ∀ value, expected.Allows value → ∃ result, convert value = some result) :
    Blames document (part.optional name expected convert) := by
  intro cause refused
  obtain rfl := eq_of_optional_error refused
  rw [optional, get?] at refused
  split at refused
  · cases refused
  · rename_i value present
    refine stands.points_invalid name full expected present fun allowed => ?_
    obtain ⟨result, converted⟩ := reads value allowed
    simp [converted] at refused

theorem blames_required {attempt : Except ClassificationError (Option α)}
    (blames : Blames document attempt)
    (found : attempt = .ok none → Json.present? part.members name = none) :
    Blames document (part.required name attempt) := by
  refine blames.bind fun value came => ?_
  cases value with
  | some value => exact .ok value
  | none =>
      intro cause refused
      cases refused
      exact stands.points_missing name full (found came)

theorem blames_optText : Blames document (part.optText name) :=
  stands.blames_optional name full fun value => (exists_scalarText value).mpr

theorem blames_requiredText : Blames document (part.requiredText name) :=
  stands.blames_required name full (stands.blames_optText name full) absent_of_optional

theorem blames_optInt64 : Blames document (part.optInt64 name) :=
  stands.blames_optional name full fun value => (exists_scalarInt64 value).mpr

theorem blames_requiredInt64 : Blames document (part.requiredInt64 name) :=
  stands.blames_required name full (stands.blames_optInt64 name full) absent_of_optional

theorem blames_optInt32 : Blames document (part.optInt32 name) := by
  refine (stands.blames_optInt64 name full).bind fun found came => ?_
  cases found with
  | none => exact .ok none
  | some word =>
      obtain ⟨value, present, read⟩ := present_of_optional came
      cases narrowed : narrow? word with
      | some narrow => simpa [narrowed] using Blames.ok (some narrow)
      | none =>
          intro cause refused
          simp only [narrowed, Except.error.injEq] at refused
          subst refused
          refine stands.points_invalid name full .integer32 present fun allowed => ?_
          obtain ⟨other, reread, _, narrow⟩ := (exists_scalarInt32 value).mpr allowed
          obtain rfl : word = other := Option.some.inj (read.symm.trans reread)
          cases narrowed.symm.trans narrow

theorem blames_optBool : Blames document (part.optBool name) :=
  stands.blames_optional name full fun value => (exists_scalarBool value).mpr

theorem blames_optObject : Blames document (part.optObject name) := by
  refine stands.blames_optional name full fun value => ?_
  rintro ⟨members, rfl, -⟩
  exact ⟨members, rfl⟩

theorem blames_optArray : Blames document (part.optArray name) := by
  refine (stands.blames_optional name full fun value => ?_).bind fun _ _ => .ok _
  rintro ⟨items, rfl, -⟩
  exact ⟨items, rfl⟩

/-- What is no list is blamed itself, and what a list wraps is blamed inside it. -/
theorem blames_jars : Blames document (part.jars name) := by
  refine Blames.map ?_ JarList.ofItems
  rw [get?]
  cases present : Json.present? part.members name with
  | none => exact .ok []
  | some value =>
      cases value with
      | null => exact .ok []
      | array items => exact .ok items
      | object members =>
          have wrapper := stands.member name full present
          rw [JarList.items]
          cases found : members.lookup "jars" with
          | none => exact .ok []
          | some inner =>
              have there (solid : inner.isNull = false) :
                  Json.present? members "jars" = some inner := by
                rw [Json.present?, found, Option.filter_some_pos (by simp [solid])]
              cases inner with
              | null => exact .ok []
              | array items => exact .ok items
              | _ =>
                  rintro _ ⟨⟩
                  refine wrapper.points_invalid "jars" rfl .array (there rfl) ?_
                  rintro ⟨_, isArray, -⟩
                  cases isArray
      | _ =>
          rintro _ ⟨⟩
          refine stands.points_invalid name full .jarList present ?_
          rintro (⟨_, isArray, -⟩ | ⟨_, isObject, -⟩)
          · cases isArray
          · cases isObject

omit full in
/-- The items of an array stand in the document one by one. -/
theorem at?_of_optArray {items : List Json} (came : part.optArray name = .ok items)
    {position : Nat} {item : Json} (there : items[position]? = some item) :
    document.at? (part.pathOf name ++ [.index position]) = some item := by
  rcases (optArray_ok_iff _ _ _).mp came with ⟨-, rfl⟩ | present
  · simp at there
  · rw [Json.at?_append, stands.at?_of_present name present]
    simp [Json.at?, there]

end Section.StandsIn

/-! ## Items -/

section Items

variable {document : Json} {place : Path} {α : Type}

/-- An item that has to be an object is read as a section. -/
theorem blames_ofItem {item : Json} (found : document.at? place = some item)
    (listed : IsItemPlace place) (inner : place.IsInner)
    {next : Section → Except ClassificationError α}
    (later : ∀ members, Section.StandsIn ⟨place, members⟩ document →
      Blames document (next ⟨place, members⟩)) :
    Blames document (Section.ofItem place item >>= next) := by
  cases item with
  | object members => exact later members ⟨found, .inr inner⟩
  | _ =>
      rintro _ ⟨⟩
      refine .mistyped inner.dotted_eq found (fun _ => ⟨rfl, listed⟩) ?_
      rintro ⟨_, isObject, -⟩
      cases isObject

theorem blames_readItems {read : Path → Json → Except ClassificationError α} {items : List Json}
    (each : ∀ (position : Nat) (item : Json), items[position]? = some item →
      Blames document (read (place ++ [.index position]) item)) :
    Blames document (Section.readItems place read items) :=
  .mapM fun entry member => each entry.2 entry.1 (List.mem_zipIdx_iff_getElem?.mp member)

end Items

namespace Snapshot

variable {document : Json}

/-! ## Parts of a document -/

theorem blames_linkingHashOf {root : Section} (stands : root.StandsIn document)
    (identity : Identity) : Blames document (linkingHashOf root identity) := by
  refine (stands.blames_optText "idHash" rfl).bind fun given _ => ?_
  cases given with
  | none => exact .ok _
  | some given => exact .ok _

theorem blames_machine {root : Section} (stands : root.StandsIn document)
    (announcement : Announcement) {basic : Members}
    (isBasic : Json.present? root.members "basic" = some (.object basic)) :
    Blames document (machine announcement root basic) := by
  have inside := stands.member "basic" rfl isBasic
  refine (inside.blames_requiredText "system.hostname" rfl).bind fun _ _ => ?_
  refine (inside.blames_requiredInt64 "jvm.report_time" rfl).bind fun _ _ => ?_
  refine (inside.blames_optText "java.vm.specification.vendor" rfl).bind fun _ _ => ?_
  refine (inside.blames_optText "java.runtime.version" rfl).bind fun _ _ => ?_
  refine (inside.blames_optText "java.home" rfl).bind fun _ _ => ?_
  refine (inside.blames_optInt64 "jvm.pid" rfl).bind fun _ _ => ?_
  refine (blames_linkingHashOf stands _).bind fun _ _ => ?_
  refine (inside.blames_optText "java.version" rfl).bind fun _ _ => ?_
  refine (inside.blames_optInt64 "jvm.heap.min" rfl).bind fun _ _ => ?_
  refine (inside.blames_optInt64 "jvm.heap.max" rfl).bind fun _ _ => ?_
  refine (inside.blames_optInt32 "system.cores.logical" rfl).bind fun _ _ => ?_
  refine (inside.blames_optText "java.class.path" rfl).bind fun _ _ => ?_
  exact (stands.blames_jars "jars" rfl).bind fun _ _ => .ok _

theorem isInner_eap (rest : Path) : Path.IsInner (.key "eap" :: rest) :=
  ⟨"eap", rest, rfl, by decide⟩

theorem blames_deployment {position : Nat} {item : Json}
    (found : document.at? (deploymentsPlace ++ [.index position]) = some item) :
    Blames document (deployment (deploymentsPlace ++ [.index position]) item) := by
  refine blames_ofItem found (.deployment position) (isInner_eap _) fun members part => ?_
  refine (part.blames_requiredText "name" rfl).bind fun _ _ => ?_
  refine (part.blames_optText "runtime-name" rfl).bind fun _ _ => ?_
  refine (part.blames_optBool "enabled" rfl).bind fun _ _ => ?_
  refine (part.blames_optBool "persistent" rfl).bind fun _ _ => ?_
  exact (part.blames_jars "archives" rfl).bind fun _ _ => .ok _

theorem blames_extensionSubsystem {outer position : Nat} {item : Json}
    (found : document.at? (subsystemsPlace outer ++ [.index position]) = some item) :
    Blames document (extensionSubsystem (subsystemsPlace outer ++ [.index position]) item) := by
  refine blames_ofItem found (.subsystem outer position) (isInner_eap _) fun members part => ?_
  refine (part.blames_requiredText "name" rfl).bind fun _ _ => ?_
  refine (part.blames_optInt32 "management-major-version" rfl).bind fun _ _ => ?_
  refine (part.blames_optInt32 "management-minor-version" rfl).bind fun _ _ => ?_
  exact (part.blames_optInt32 "management-micro-version" rfl).bind fun _ _ => .ok _

theorem blames_extensionOf {position : Nat} {item : Json}
    (found : document.at? (extensionsPlace ++ [.index position]) = some item) :
    Blames document (extensionOf (extensionsPlace ++ [.index position]) item) := by
  refine blames_ofItem found (.extension position) (isInner_eap _) fun members part => ?_
  refine (part.blames_optArray "subsystems" rfl).bind fun items came => ?_
  refine Blames.bind (blames_readItems fun inner item there => ?_) fun _ _ => ?_
  · exact blames_extensionSubsystem (part.at?_of_optArray "subsystems" came there)
  · exact (part.blames_requiredText "module" rfl).bind fun _ _ => .ok _

theorem blames_descriptors {part : Section} (stands : part.StandsIn document) :
    Blames document (descriptors part) := by
  refine (stands.blames_optText "version" rfl).bind fun _ _ => ?_
  refine (stands.blames_optText "launch-type" rfl).bind fun _ _ => ?_
  refine (stands.blames_optText "name" rfl).bind fun _ _ => ?_
  refine (stands.blames_optText "organization" rfl).bind fun _ _ => ?_
  refine (stands.blames_optText "process-type" rfl).bind fun _ _ => ?_
  refine (stands.blames_optText "product-name" rfl).bind fun _ _ => ?_
  refine (stands.blames_optText "product-version" rfl).bind fun _ _ => ?_
  refine (stands.blames_optText "profile-name" rfl).bind fun _ _ => ?_
  refine (stands.blames_optText "release-codename" rfl).bind fun _ _ => ?_
  refine (stands.blames_optText "release-version" rfl).bind fun _ _ => ?_
  refine (stands.blames_optText "running-mode" rfl).bind fun _ _ => ?_
  refine (stands.blames_optText "runtime-configuration-state" rfl).bind fun _ _ => ?_
  refine (stands.blames_optText "server-state" rfl).bind fun _ _ => ?_
  exact (stands.blames_optText "suspend-state" rfl).bind fun _ _ => .ok _

theorem blames_configuration {members : Members}
    (stands : Section.StandsIn ⟨configurationPlace, members⟩ document) :
    Blames document (configuration ⟨configurationPlace, members⟩) := by
  refine (stands.blames_optArray "deployments" rfl).bind fun items came => ?_
  refine Blames.bind (blames_readItems fun position item there => ?_) fun _ _ => ?_
  · exact blames_deployment (stands.at?_of_optArray "deployments" came there)
  refine (stands.blames_optArray "extensions" rfl).bind fun items came => ?_
  refine Blames.bind (blames_readItems fun position item there => ?_) fun _ _ => ?_
  · exact blames_extensionOf (stands.at?_of_optArray "extensions" came there)
  refine (stands.blames_optObject "subsystems" rfl).bind fun _ _ => ?_
  exact (blames_descriptors stands).bind fun _ _ => .ok _

theorem blames_server {root members : Members} (stands : Section.StandsIn ⟨[], root⟩ document)
    (isServer : Json.present? root "eap" = some (.object members)) (found : Jvm) (raw : String) :
    Blames document (server ⟨[], root⟩ found members raw) := by
  have inside := stands.member "eap" rfl isServer
  refine Blames.bind ?_ fun _ _ => ?_
  · refine (inside.blames_optObject "eap-configuration" rfl).bind fun given came => ?_
    cases given with
    | none => exact .ok none
    | some inner =>
        have present := (Section.optObject_ok_iff _ _ _).mp came
        exact .map (blames_configuration (inside.member "eap-configuration" rfl present)) _
  refine (inside.blames_optText "eap-version" rfl).bind fun _ _ => ?_
  refine (inside.blames_optBool "eap-xp" rfl).bind fun _ _ => ?_
  refine (inside.blames_optBool "eap-yaml-extension" rfl).bind fun _ _ => ?_
  refine (inside.blames_optBool "eap-bootable-jar" rfl).bind fun _ _ => ?_
  refine (inside.blames_optBool "eap-use-git" rfl).bind fun _ _ => ?_
  exact (inside.blames_jars "eap-modules" rfl).bind fun _ _ => .ok _

/-- The name of an update may be there and still be missing, as the empty text. -/
theorem blames_delta {root updated : Members} (stands : Section.StandsIn ⟨[], root⟩ document)
    (isUpdated : Json.present? root "updated-jars" = some (.object updated)) :
    Blames document (delta ⟨[], root⟩ updated) := by
  have inside := stands.member "updated-jars" rfl isUpdated
  refine (inside.blames_requiredText "idHash" rfl).bind fun name came => ?_
  dsimp only
  split
  · rename_i empty
    obtain rfl : name = "" := by simpa using empty
    obtain ⟨value, present, text⟩ := (Section.requiredText_ok_iff _ _ _).mp came
    obtain rfl := (Section.scalarText?_eq_some_empty_iff value).mp text
    rintro _ ⟨⟩
    exact .unnamed (inside.isInner_pathOf "idHash" rfl).dotted_eq
      (inside.at?_of_present "idHash" present)
  · exact (inside.blames_jars "jars" rfl).bind fun _ _ => .ok _

theorem blames_messageOf (announcement : Announcement) (raw : String) (members : Members) :
    Blames (.object members) (messageOf announcement raw members) := by
  have root : Section.StandsIn ⟨[], members⟩ (.object members) := ⟨rfl, .inl rfl⟩
  refine (root.blames_optObject "basic" rfl).bind fun basic cameBasic => ?_
  refine (root.blames_optObject "eap" rfl).bind fun eap cameEap => ?_
  have isBasic := (Section.optObject_ok_iff _ _ _).mp cameBasic
  have isServer := (Section.optObject_ok_iff _ _ _).mp cameEap
  cases basic with
  | some basic =>
      cases eap with
      | none => exact (blames_machine root announcement isBasic).bind fun _ _ => .ok _
      | some eap =>
          refine (blames_machine root announcement isBasic).bind fun machine _ => ?_
          exact (blames_server root isServer machine raw).bind fun _ _ => .ok _
  | none =>
      refine (root.blames_optObject "updated-jars" rfl).bind fun updated cameUpdated => ?_
      have isUpdated := (Section.optObject_ok_iff _ _ _).mp cameUpdated
      cases updated with
      | some updated => exact (blames_delta root isUpdated).bind fun _ _ => .ok _
      | none =>
          rintro _ ⟨⟩
          exact .shapeless rfl isBasic isUpdated
            ((Section.exists_optObject _ _).mp ⟨eap, cameEap⟩)

/-- A document that is a JSON object is refused for a defect of its own, and the refusal tells the
place of the defect. -/
theorem classify_points (announcement : Announcement) {document : String} {members : Members}
    (isObject : Json.read? document = some (.object members)) {failure : IngestError}
    (refused : classify announcement document = .error failure) :
    ∃ cause, failure = .classification cause ∧ Points (.object members) cause := by
  rw [classify_of_object isObject] at refused
  cases came : messageOf announcement document members with
  | ok message =>
      rw [came] at refused
      cases refused
  | error cause =>
      rw [came] at refused
      cases refused
      exact ⟨cause, rfl, blames_messageOf announcement document members cause came⟩

/-- The cause of a refusal. -/
def refusal? {failure value : Type} : Except failure value → Option failure
  | .error cause => some cause
  | .ok _ => none

theorem classify_eq_error {announcement : Announcement} {document : String} {members : Members}
    {cause : ClassificationError} (isObject : Json.read? document = some (.object members))
    (told : refusal? (messageOf announcement document members) = some cause) :
    classify announcement document = .error (.classification cause) := by
  rw [classify_of_object isObject]
  cases read : messageOf announcement document members with
  | error other =>
      rw [read] at told
      obtain rfl : other = cause := Option.some.inj told
      rfl
  | ok message =>
      rw [read] at told
      cases told

/-- A server with a subsystem whose version is too large a number. -/
def largeVersion : String :=
  "\x7b\"basic\":\x7b\"system.hostname\":\"h\",\"jvm.report_time\":1\x7d," ++
    "\"eap\":\x7b\"eap-configuration\":\x7b\"extensions\":[\x7b\"module\":\"m\"," ++
    "\"subsystems\":[\x7b\"name\":\"s\",\"management-minor-version\":\" 3000000000\"" ++
    "\x7d]\x7d]\x7d\x7d\x7d"

/-- The members of that document. -/
def largeVersionMembers : Members :=
  [("basic", .object [("jvm.report_time", .int 1), ("system.hostname", .string "h")]),
    ("eap", .object [("eap-configuration", .object [("extensions", .array [.object [
      ("module", .string "m"),
      ("subsystems", .array [.object [("management-minor-version", .string " 3000000000"),
        ("name", .string "s")]])]])])])]

theorem points_largeVersion :
    let announcement : Announcement := ⟨none, "o", "", none, default, none, false⟩
    ∃ members path, Json.read? largeVersion = some (.object members) ∧
      classify announcement largeVersion =
        .error (.classification (.invalidField path .integer32)) ∧
      path.text =
        "eap.eap-configuration.extensions[0].subsystems[0].management-minor-version" ∧
      Points (.object members) (.invalidField path .integer32) := by
  intro announcement
  let path : Path := subsystemsPlace 0 ++ [.index 0, .key "management-minor-version"]
  have isObject : Json.read? largeVersion = some (.object largeVersionMembers) := by
    decide +kernel
  have refused : classify announcement largeVersion =
      .error (.classification (.invalidField path .integer32)) :=
    classify_eq_error isObject (by decide +kernel)
  obtain ⟨cause, same, points⟩ := classify_points announcement isObject refused
  cases same
  exact ⟨largeVersionMembers, path, isObject, refused, by decide, points⟩

/-! ## Items that are `null` -/

theorem exists_step_of_object {members : Members} {place : Path} {value : Json}
    (found : Json.at? place (.object members) = some value) :
    place = [] ∧ value = .object members ∨ ∃ name rest inner, place = .key name :: rest ∧
      (name, inner) ∈ members ∧ Json.at? rest inner = some value := by
  rcases place with _ | ⟨name | position, rest⟩
  · exact .inl ⟨rfl, (Option.some.inj found).symm⟩
  · obtain ⟨inner, there, inside⟩ := Option.bind_eq_some_iff.mp found
    exact .inr ⟨name, rest, inner, rfl, SortedMap.mem_of_lookup there, inside⟩
  · cases found

theorem exists_step_of_array {items : List Json} {place : Path} {value : Json}
    (found : Json.at? place (.array items) = some value) :
    place = [] ∧ value = .array items ∨ ∃ position rest inner, place = .index position :: rest ∧
      items[position]? = some inner ∧ Json.at? rest inner = some value := by
  rcases place with _ | ⟨name | position, rest⟩
  · exact .inl ⟨rfl, (Option.some.inj found).symm⟩
  · cases found
  · obtain ⟨inner, there, inside⟩ := Option.bind_eq_some_iff.mp found
    exact .inr ⟨position, rest, inner, rfl, there, inside⟩

/-- A server with a deployment that is `null`. -/
def nullDeployment : String :=
  "\x7b\"basic\":\x7b\"system.hostname\":\"h\",\"jvm.report_time\":1\x7d," ++
    "\"eap\":\x7b\"eap-configuration\":\x7b\"deployments\":[null]\x7d\x7d\x7d"

/-- The members of that document. -/
def nullDeploymentMembers : Members :=
  [("basic", .object [("jvm.report_time", .int 1), ("system.hostname", .string "h")]),
    ("eap", .object [("eap-configuration", .object [("deployments", .array [.null])])])]

/-- The only thing in it that is told by the text of the deployment's place is `null`. -/
theorem eq_null_of_dotted {place : Path} {value : Json}
    (told : place.dotted = "eap.eap-configuration.deployments[0]")
    (stands : Json.at? place (.object nullDeploymentMembers) = some value) : value = .null := by
  rcases exists_step_of_object stands with ⟨rfl, -⟩ | ⟨name, rest, inner, rfl, member, stands⟩
  · exact absurd told (by decide)
  simp only [nullDeploymentMembers, List.mem_cons, Prod.mk.injEq, List.not_mem_nil, or_false]
    at member
  rcases member with ⟨rfl, rfl⟩ | ⟨rfl, rfl⟩
  · -- No place in the `basic` section has a text that begins with the name of another one.
    have first := congrArg (fun text => text.toList.head?) told
    simp [Path.dotted] at first
  rcases exists_step_of_object stands with ⟨rfl, -⟩ | ⟨name, rest, inner, rfl, member, stands⟩
  · exact absurd told (by decide)
  simp only [List.mem_cons, Prod.mk.injEq, List.not_mem_nil, or_false] at member
  obtain ⟨rfl, rfl⟩ := member
  rcases exists_step_of_object stands with ⟨rfl, -⟩ | ⟨name, rest, inner, rfl, member, stands⟩
  · exact absurd told (by decide)
  simp only [List.mem_cons, Prod.mk.injEq, List.not_mem_nil, or_false] at member
  obtain ⟨rfl, rfl⟩ := member
  rcases exists_step_of_array stands with ⟨rfl, -⟩ | ⟨position, rest, inner, rfl, there, stands⟩
  · exact absurd told (by decide)
  obtain rfl : inner = .null := by
    have listed := List.mem_of_getElem? there
    simpa using listed
  cases rest with
  | nil => exact (Option.some.inj stands).symm
  | cons step rest => cases step <;> cases stands

/-- Not everything that is refused as mistyped is something else than `null`. -/
theorem not_classify_points_beside_null :
    ¬∀ (announcement : Announcement) (document : String) (members : Members) (path : Path)
      (expected : Expected), Json.read? document = some (.object members) →
        classify announcement document = .error (.classification (.invalidField path expected)) →
          ∃ place value, Path.dotted place = path.text ∧
            Json.at? place (.object members) = some value ∧ value ≠ .null ∧
              ¬expected.Allows value := by
  intro always
  have isObject : Json.read? nullDeployment = some (.object nullDeploymentMembers) := by
    decide +kernel
  obtain ⟨place, value, told, stands, solid, -⟩ :=
    always ⟨none, "o", "", none, default, none, false⟩ nullDeployment nullDeploymentMembers
      (deploymentsPlace ++ [.index 0]) .object isObject
      (classify_eq_error isObject (by decide +kernel))
  exact solid (eq_null_of_dotted told stands)

end Snapshot
end JarLedger
