import JarLedger.Envelope
import JarLedger.Proofs.Json.Equality
import JarLedger.Proofs.SortedMap

/-!
# Where the fields of an announcement come from

An envelope supplies a field itself, or the object nested in it does.  This is settled for every
field apart, so an envelope reads like its flattened form, which holds what each field is supplied
with and nothing else (`Envelope.reads_as_flattened`).  An envelope is refused for the first field,
in the order of reading, that is missing or holds the wrong thing
(`Envelope.failure?_announcement`).
-/

namespace JarLedger

/-! ## Members that count -/

namespace Json

variable {members : List (String × Json)} {name : String} {value : Json}

theorem isNull_eq_false_iff : value.isNull = false ↔ value ≠ .null := by
  cases value <;> simp [isNull]

theorem present?_eq_some_iff :
    present? members name = some value ↔ members.lookup name = some value ∧ value ≠ .null := by
  rw [present?, Option.filter_eq_some_iff, Bool.not_eq_true', isNull_eq_false_iff]

theorem present?_eq_none_iff :
    present? members name = none ↔
      members.lookup name = none ∨ members.lookup name = some .null := by
  rw [present?]
  cases found : members.lookup name with
  | none => simp
  | some value => cases value <;> simp [isNull]

end Json

namespace Envelope

/-- What a field has to hold. -/
inductive Content where
  | text
  /-- A text that spells a point in time. -/
  | instant
  | truth

/-- A field of an announcement. -/
structure Field where
  name : String
  content : Content
  /-- Whether it may not be missing. -/
  needed : Bool

/-- The fields of an announcement, in the order in which they are read. -/
def fields : List Field :=
  [⟨"org_id", .text, true⟩, ⟨"timestamp", .instant, true⟩, ⟨"account", .text, false⟩,
    ⟨"content_type", .text, false⟩, ⟨"url", .text, false⟩, ⟨"request_id", .text, false⟩,
    ⟨"is_runtimes", .truth, false⟩]

/-- An envelope supplies a field with a value: its own, or, if that is absent or `null`, the one of
the nested object.  A `null` supplies nothing. -/
inductive Supplies (members : List (String × Json)) (name : String) (value : Json) : Prop
  | own (here : members.lookup name = some value) (present : value ≠ .null)
  | nested {inner : List (String × Json)}
      (missing : members.lookup name = none ∨ members.lookup name = some .null)
      (platform : members.lookup "platform_metadata" = some (.object inner))
      (there : inner.lookup name = some value) (present : value ≠ .null)

/-- An object holds what the fields of an envelope are supplied with, and nothing else. -/
def Flattens (members flat : List (String × Json)) : Prop :=
  ∀ name value, flat.lookup name = some value ↔
    name ∈ fields.map Field.name ∧ Supplies members name value

variable {members others flat : List (String × Json)} {name : String} {value : Json}

theorem lookup_platform :
    (ofMembers members).platform.lookup name = some value ↔
      ∃ inner, members.lookup "platform_metadata" = some (.object inner) ∧
        inner.lookup name = some value := by
  rw [ofMembers, platformName]
  cases members.lookup "platform_metadata" with
  | none => simp
  | some nested => cases nested <;> simp [Json.members?]

/-- A field is read from what the envelope supplies. -/
theorem field?_eq_some_iff :
    (ofMembers members).field? name = some value ↔ Supplies members name value := by
  rw [field?, Option.or_eq_some_iff, Json.present?_eq_some_iff, Json.present?_eq_none_iff,
    Json.present?_eq_some_iff, lookup_platform]
  constructor
  · rintro (⟨here, present⟩ | ⟨missing, ⟨inner, platform, there⟩, present⟩)
    · exact .own here present
    · exact .nested missing platform there present
  · rintro (⟨here, present⟩ | ⟨missing, platform, there, present⟩)
    · exact .inl ⟨here, present⟩
    · exact .inr ⟨missing, ⟨_, platform, there⟩, present⟩

theorem field?_eq_none_iff :
    (ofMembers members).field? name = none ↔ ∀ value, ¬ Supplies members name value := by
  simp only [← field?_eq_some_iff, Option.eq_none_iff_forall_ne_some, ne_eq]

theorem field?_congr
    (same : ∀ value, Supplies others name value ↔ Supplies members name value) :
    (ofMembers others).field? name = (ofMembers members).field? name :=
  Option.ext fun value => by rw [field?_eq_some_iff, field?_eq_some_iff, same]

/-- An announcement is read from its fields. -/
theorem announcement_congr {envelope other : Envelope}
    (same : ∀ field ∈ fields, other.field? field.name = envelope.field? field.name) :
    other.announcement = envelope.announcement := by
  simp only [fields, List.forall_mem_cons, List.not_mem_nil, false_imp_iff, implies_true,
    and_true] at same
  obtain ⟨orgId, timestamp, account, contentType, url, requestId, isRuntimes⟩ := same
  simp only [announcement, requiredText, text, truth, orgId, timestamp, account, contentType, url,
    requestId, isRuntimes]

/-- Envelopes that supply every field with the same value read alike, whichever of their objects
the values stand in. -/
theorem ofJson_congr
    (same : ∀ field ∈ fields, ∀ value,
      Supplies others field.name value ↔ Supplies members field.name value) :
    ofJson (.object others) = ofJson (.object members) :=
  announcement_congr fun field among => field?_congr (same field among)

/-! ## The flattened form -/

theorem Supplies.present (supplied : Supplies members name value) : value ≠ .null := by
  rcases supplied with ⟨-, present⟩ | ⟨-, -, -, present⟩
  · exact present
  · exact present

/-- A flattened form supplies every field itself, with the same value. -/
theorem Flattens.supplies_iff (flattens : Flattens members flat) {field : Field}
    (among : field ∈ fields) (value : Json) :
    Supplies flat field.name value ↔ Supplies members field.name value := by
  constructor
  · rintro (⟨here, -⟩ | ⟨-, platform, -, -⟩)
    · exact ((flattens _ _).mp here).2
    · exact absurd ((flattens _ _).mp platform).1 (by decide)
  · intro supplied
    exact .own ((flattens _ _).mpr ⟨List.mem_map_of_mem among, supplied⟩) supplied.present

/-- The values that the fields of an envelope are supplied with, by name. -/
def flattened (members : List (String × Json)) : SortedMap Json :=
  .ofListLast <| (fields.map Field.name).filterMap fun name =>
    ((ofMembers members).field? name).map fun value => (name, value)

theorem flattens_flattened (members : List (String × Json)) :
    Flattens members (flattened members).entries := by
  intro name value
  have distinct : (((fields.map Field.name).filterMap fun name =>
      ((ofMembers members).field? name).map fun value => (name, value)).map Prod.fst).Nodup := by
    rw [List.map_filterMap]
    refine List.Nodup.filterMap (fun first second name named renamed => ?_) (by decide)
    simp only [Option.map_map, Option.mem_def, Option.map_eq_some_iff] at named renamed
    obtain ⟨_, -, rfl⟩ := named
    obtain ⟨_, -, same⟩ := renamed
    exact same.symm
  refine (SortedMap.get?_ofListLast_eq_some_iff distinct).trans ?_
  simp only [List.mem_filterMap, Option.map_eq_some_iff, Prod.mk.injEq, field?_eq_some_iff]
  constructor
  · rintro ⟨_, among, _, supplied, rfl, rfl⟩
    exact ⟨among, supplied⟩
  · rintro ⟨among, supplied⟩
    exact ⟨name, among, value, supplied, rfl, rfl⟩

/-- There is one flattened form. -/
theorem eq_flattened {flat : SortedMap Json} (flattens : Flattens members flat.entries) :
    flat = flattened members :=
  SortedMap.ext_get? fun name => Option.ext fun value =>
    (flattens name value).trans (flattens_flattened members name value).symm

/-! ## What an envelope is refused for -/

/-- Why an attempt failed, if it did. -/
def failure? {cause result : Type} : Except cause result → Option cause
  | .ok _ => none
  | .error cause => some cause

theorem failure?_bind {cause first second : Type} {attempt : Except cause first}
    {next : first → Except cause second} {later : Option cause}
    (rest : ∀ middle, attempt = .ok middle → failure? (next middle) = later) :
    failure? (attempt >>= next) = (failure? attempt).or later := by
  cases attempt with
  | error cause => rfl
  | ok middle => exact rest middle rfl

/-- Name of what a field has to hold. -/
def Content.expected : Content → String
  | .text | .instant => "a string"
  | .truth => "a boolean"

/-- Whether a value is of the right type for a field. -/
def Content.takes : Content → Json → Bool
  | .text, .string _ | .instant, .string _ | .truth, .bool _ => true
  | _, _ => false

/-- What is wrong with a field. -/
inductive Field.Faulty (members : List (String × Json)) (field : Field) : ParseError → Prop
  | missing (needed : field.needed) (unsupplied : ∀ value, ¬ Supplies members field.name value) :
      Faulty members field (.missingField field.name)
  | mistyped {value : Json} (supplied : Supplies members field.name value)
      (other : field.content.takes value = false) :
      Faulty members field (.mistypedField field.name field.content.expected value.text)
  | unreadable {text : String} (supplied : Supplies members field.name (.string text))
      (timed : field.content = .instant) (unread : Instant.ofRfc3339? text = none) :
      Faulty members field (.unreadableTimestamp field.name)

/-- What is wrong with the value of a field, if anything is. -/
def Content.objection? (name : String) : Content → Json → Option ParseError
  | .text, .string _ | .truth, .bool _ => none
  | .instant, .string spelled =>
      if (Instant.ofRfc3339? spelled).isNone then some (.unreadableTimestamp name) else none
  | content, found => some (.mistypedField name content.expected found.text)

/-- What is wrong with a field that has such a value or none, if anything is. -/
def Field.objection? (field : Field) : Option Json → Option ParseError
  | none => if field.needed then some (.missingField field.name) else none
  | some value => field.content.objection? field.name value

theorem Content.objection?_eq_some_iff {content : Content} {cause : ParseError} :
    content.objection? name value = some cause ↔
      (content.takes value = false ∧ .mistypedField name content.expected value.text = cause) ∨
      ∃ spelled, value = .string spelled ∧ content = .instant ∧
        Instant.ofRfc3339? spelled = none ∧ .unreadableTimestamp name = cause := by
  cases content <;> cases value <;> simp [objection?, takes]

theorem Field.objection?_eq_some_iff {field : Field} {cause : ParseError} :
    field.objection? ((ofMembers members).field? field.name) = some cause ↔
      field.Faulty members cause := by
  constructor
  · intro objected
    cases given : (ofMembers members).field? field.name with
    | none =>
        rw [given, objection?, Option.ite_none_right_eq_some] at objected
        obtain ⟨needed, same⟩ := objected
        cases same
        exact .missing needed (field?_eq_none_iff.mp given)
    | some value =>
        have supplied := field?_eq_some_iff.mp given
        rw [given, objection?, Content.objection?_eq_some_iff] at objected
        rcases objected with ⟨other, rfl⟩ | ⟨text, rfl, timed, unread, rfl⟩
        · exact .mistyped supplied other
        · exact .unreadable supplied timed unread
  · rintro (⟨needed, unsupplied⟩ | ⟨supplied, other⟩ | ⟨supplied, timed, unread⟩)
    · rw [field?_eq_none_iff.mpr unsupplied, objection?, if_pos needed]
    · rw [field?_eq_some_iff.mpr supplied, objection?, Content.objection?_eq_some_iff]
      exact .inl ⟨other, rfl⟩
    · rw [field?_eq_some_iff.mpr supplied, objection?, Content.objection?_eq_some_iff]
      exact .inr ⟨_, rfl, timed, unread, rfl⟩

variable (envelope : Envelope)

theorem failure?_text (name : String) :
    failure? (envelope.text name) =
      Field.objection? ⟨name, .text, false⟩ (envelope.field? name) := by
  rw [text]
  cases envelope.field? name with
  | none => rfl
  | some value => cases value <;> rfl

theorem failure?_truth (name : String) :
    failure? (envelope.truth name) =
      Field.objection? ⟨name, .truth, false⟩ (envelope.field? name) := by
  rw [truth]
  cases envelope.field? name with
  | none => rfl
  | some value => cases value <;> rfl

theorem failure?_requiredText (name : String) :
    failure? (envelope.requiredText name) =
      Field.objection? ⟨name, .text, true⟩ (envelope.field? name) := by
  rw [requiredText, text]
  cases envelope.field? name with
  | none => rfl
  | some value => cases value <;> rfl

theorem failure?_instant {result : Type} {later : Option ParseError} (name : String)
    {next : Instant → Except ParseError result}
    (rest : ∀ instant, failure? (next instant) = later) :
    failure? (do
      let spelled ← envelope.requiredText name
      let some instant := Instant.ofRfc3339? spelled | .error (.unreadableTimestamp name)
      next instant) =
        (Field.objection? ⟨name, .instant, true⟩ (envelope.field? name)).or later := by
  rw [requiredText, text]
  cases envelope.field? name with
  | none => rfl
  | some value =>
      cases value with
      | string spelled =>
          simp only [Field.objection?, Content.objection?, bind, Except.bind]
          cases Instant.ofRfc3339? spelled with
          | none => rfl
          | some instant => exact rest instant
      | _ => rfl

/-- An envelope is refused for the first field, in order, that there is something wrong with. -/
theorem failure?_announcement :
    failure? envelope.announcement =
      fields.findSome? fun field => field.objection? (envelope.field? field.name) := by
  have cons (field : Field) (rest : List Field) :
      (field :: rest).findSome? (fun field => field.objection? (envelope.field? field.name)) =
        (field.objection? (envelope.field? field.name)).or
          (rest.findSome? fun field => field.objection? (envelope.field? field.name)) := by
    rw [List.findSome?_cons]
    cases field.objection? (envelope.field? field.name) <;> rfl
  simp only [announcement, fields, cons, ← failure?_requiredText, ← failure?_text,
    ← failure?_truth]
  refine failure?_bind fun orgId _ => failure?_instant envelope _ fun timestamp => ?_
  exact failure?_bind fun accountId _ => failure?_bind fun contentType _ =>
    failure?_bind fun url _ => failure?_bind fun requestId _ =>
      failure?_bind fun isRuntimes _ => rfl

variable {envelope}

theorem failure?_eq_some_iff {cause result : Type} {attempt : Except cause result}
    {found : cause} : failure? attempt = some found ↔ attempt = .error found := by
  cases attempt <;> simp [failure?]

theorem ofJson_eq_error_iff {cause : ParseError} :
    ofJson (.object members) = .error cause ↔
      ∃ before field after, fields = before ++ field :: after ∧ field.Faulty members cause ∧
        ∀ earlier ∈ before, ∀ other, ¬ earlier.Faulty members other := by
  rw [ofJson, ← failure?_eq_some_iff, failure?_announcement, List.findSome?_eq_some_iff]
  simp only [Field.objection?_eq_some_iff, Option.eq_none_iff_forall_ne_some, ne_eq]

/-- An envelope with a fault in some field is refused, for this fault or that of a field before. -/
theorem exists_ofJson_eq_error {field : Field} {cause : ParseError} (among : field ∈ fields)
    (faulty : field.Faulty members cause) : ∃ first, ofJson (.object members) = .error first := by
  simp only [ofJson, ← failure?_eq_some_iff, failure?_announcement]
  rw [← Option.isSome_iff_exists, List.findSome?_isSome_iff]
  exact ⟨field, among, Option.isSome_of_eq_some (Field.objection?_eq_some_iff.mpr faulty)⟩

theorem platform_ofMembers (members : List (String × Json)) :
    (ofMembers members).platform =
      ((Json.present? members platformName).bind Json.members?).getD [] := by
  rw [ofMembers, Json.present?]
  cases members.lookup platformName with
  | none => rfl
  | some nested => cases nested <;> rfl

/-- What an envelope supplies depends on nothing but its members that are not `null`. -/
theorem supplies_congr
    (same : ∀ other, Json.present? others other = Json.present? members other) :
    Supplies others name value ↔ Supplies members name value := by
  have platform : (ofMembers others).platform = (ofMembers members).platform := by
    rw [platform_ofMembers, platform_ofMembers, same]
  have own : Json.present? (ofMembers others).root name =
      Json.present? (ofMembers members).root name := same name
  rw [← field?_eq_some_iff, ← field?_eq_some_iff, field?, field?, own, platform]

/-- A member that is `null` may as well be absent. -/
theorem present?_of_null {absent : String} (isNull : members.lookup absent = some .null)
    (isAbsent : others.lookup absent = none)
    (rest : ∀ other ≠ absent, others.lookup other = members.lookup other) (name : String) :
    Json.present? others name = Json.present? members name := by
  by_cases same : name = absent
  · rw [same, Json.present?_eq_none_iff.mpr (.inl isAbsent),
      Json.present?_eq_none_iff.mpr (.inr isNull)]
  · rw [Json.present?, Json.present?, rest name same]

/-- An envelope has one flattened form, and reads like it, as a value and as a text.  It is refused
exactly for the first field, in order, that there is something wrong with.  So a value of the wrong
type in the envelope itself is refused whatever the nested object holds; a `null` is as good as no
member; and where the value of one field stands makes no difference to any field. -/
theorem reads_as_flattened (members : List (String × Json)) :
    (∃! flat : SortedMap Json, Flattens members flat.entries) ∧
    (∀ flat, Flattens members flat → ofJson (.object flat) = ofJson (.object members) ∧
      ∀ text other, Json.read? text = some (.object members) →
        Json.read? other = some (.object flat) → read other = read text) ∧
    (∀ cause, ofJson (.object members) = .error cause ↔
      ∃ before field after, fields = before ++ field :: after ∧ field.Faulty members cause ∧
        ∀ earlier ∈ before, ∀ other, ¬ earlier.Faulty members other) ∧
    (∀ field ∈ fields, ∀ value, members.lookup field.name = some value → value ≠ .null →
      field.content.takes value = false → ∃ cause, ofJson (.object members) = .error cause) ∧
    (∀ name others, members.lookup name = some .null → others.lookup name = none →
      (∀ other ≠ name, others.lookup other = members.lookup other) →
        ofJson (.object others) = ofJson (.object members)) ∧
    (∀ others, (∀ field ∈ fields, ∀ value,
        Supplies others field.name value ↔ Supplies members field.name value) →
      ofJson (.object others) = ofJson (.object members)) := by
  have alike {flat : List (String × Json)} (flattens : Flattens members flat) :
      ofJson (.object flat) = ofJson (.object members) :=
    ofJson_congr fun _ among => flattens.supplies_iff among
  refine ⟨⟨flattened members, flattens_flattened members, fun _ => eq_flattened⟩,
    fun flat flattens => ⟨alike flattens, fun text other isObject isFlat => ?_⟩,
    fun cause => ofJson_eq_error_iff, fun field among value here present other => ?_,
    fun name others isNull isAbsent rest => ?_, fun others => ofJson_congr⟩
  · rw [read, read, isObject, isFlat]
    exact alike flattens
  · exact exists_ofJson_eq_error among (.mistyped (.own here present) other)
  · exact ofJson_congr fun _ _ _ => supplies_congr (present?_of_null isNull isAbsent rest)

/-- An envelope that takes some of its fields from the nested object. -/
def mixedEnvelope : String :=
  "\x7b\"timestamp\":\"1970-01-01T00:00:00Z\",\"org_id\":\"o\",\"url\":null," ++
    "\"platform_metadata\":\x7b\"org_id\":7,\"is_runtimes\":true,\"url\":\"u\"\x7d\x7d"

/-- Its flattened form. -/
def evenEnvelope : String :=
  "\x7b\"org_id\":\"o\",\"timestamp\":\"1970-01-01T00:00:00Z\",\"url\":\"u\"," ++
    "\"is_runtimes\":true\x7d"

theorem reads_as_flattened_mixedEnvelope :
    let nested : Json := .object [("is_runtimes", .bool true), ("org_id", .int 7),
      ("url", .string "u")]
    let time : String × Json := ("timestamp", .string "1970-01-01T00:00:00Z")
    let silent := [("org_id", .string "o"), ("platform_metadata", nested), time]
    let members := silent ++ [("url", .null)]
    let mistyped := silent ++ [("url", .bool true)]
    let flat := [("is_runtimes", .bool true), ("org_id", .string "o"), time, ("url", .string "u")]
    Flattens members flat ∧ Json.read? mixedEnvelope = some (.object members) ∧
      Json.read? evenEnvelope = some (.object flat) ∧ read evenEnvelope = read mixedEnvelope ∧
      members.lookup "url" = some .null ∧ ofJson (.object silent) = ofJson (.object members) ∧
      mistyped.lookup "url" = some (.bool true) ∧
      ∃ cause, ofJson (.object mistyped) = .error cause := by
  intro nested time silent members mistyped flat
  have flattens : Flattens members flat := by
    have same : (flattened members).entries = flat := by decide +kernel
    exact same ▸ flattens_flattened members
  have mixed : Json.read? mixedEnvelope = some (.object members) := by decide +kernel
  have even : Json.read? evenEnvelope = some (.object flat) := by decide +kernel
  obtain ⟨-, alike, -, -, silently, -⟩ := reads_as_flattened members
  obtain ⟨-, -, -, refused, -⟩ := reads_as_flattened mistyped
  refine ⟨flattens, mixed, even, (alike flat flattens).2 _ _ mixed even, rfl,
    silently "url" silent rfl rfl fun other different => ?_, rfl,
    refused ⟨"url", .text, false⟩ (by simp [fields]) (.bool true) rfl nofun rfl⟩
  simp [silent, members, time, List.lookup_cons, beq_eq_false_iff_ne.mpr different]

end Envelope
end JarLedger
