import JarLedger.Proofs.Snapshot.Defects
import JarLedger.Proofs.Snapshot.Spellings

/-!
# Documents in other spellings

A member of a section may be respelled: a number or a truth value by its text, `null` by leaving the
member out.  Documents that differ in the spelling of members of their sections are read alike
(`Snapshot.classify_respelled`), but for the parts that are kept as they came.  Each kind of section
has a relation of two that are alike, every reader gives the same for such two, and respelling a
member of a section inside a document leads to a document that is alike.
-/

namespace JarLedger

open Grammar

/-! ## What is read -/

/-- A machine without its section as it came. -/
def Jvm.gist (machine : Jvm) : Jvm := { machine with details := .null }

/-- A deployment without its content as it came. -/
def Deployment.gist (deployment : Deployment) : Deployment := { deployment with content := .null }

/-- A configuration without the members that are kept as they came. -/
def Configuration.gist (configuration : Configuration) : Configuration :=
  { configuration with
    socketBindingGroups := .null
    paths := .null
    interfaces := .null
    deployments := configuration.deployments.map Deployment.gist }

/-- A server without anything that is kept as it came. -/
def AppServer.gist (server : AppServer) : AppServer :=
  { server with
    jvm := server.jvm.gist
    configuration := server.configuration.map Configuration.gist
    raw := "" }

/-- An instance without anything that is kept as it came. -/
def Instance.gist : Instance → Instance
  | .jvm machine => .jvm machine.gist
  | .appServer server => .appServer server.gist

/-- A message without anything that is kept as it came. -/
def Message.gist : Message → Message
  | .newInstance new => .newInstance new.gist
  | .update delta => .update delta

/-! ## Respelling a member -/

namespace Json

/-- Change what stands under a name. -/
def alterMember (name : String) (change : Json → Json) (members : Members) : Members :=
  members.map fun (other, value) => (other, if other = name then change value else value)

/-- Respell what stands under a name; `null` is left out. -/
def respellMember (name : String) (members : Members) : Members :=
  if (members.lookup name).any isNull then members.filter fun (other, _) => other ≠ name
  else alterMember name respelled members

/-- Change the members of an object. -/
def onObject (edit : Members → Members) : Json → Json
  | .object members => .object (edit members)
  | value => value

/-- Change an item of an array. -/
def onItem (position : Nat) (change : Json → Json) : Json → Json
  | .array items => .array (items.modify position change)
  | value => value

/-- Change what stands at a place. -/
def alterAt (change : Json → Json) : Path → Json → Json
  | [] => change
  | .key name :: rest => onObject (alterMember name (alterAt change rest))
  | .index position :: rest => onItem position (alterAt change rest)

/-- Respell a member of the object at a place. -/
def respellAt (place : Path) (name : String) (document : Json) : Json :=
  alterAt (onObject (respellMember name)) place document

/-- Respell members one after the other, each given by the place of its section and its name. -/
def respellAll (fields : List (Path × String)) (document : Json) : Json :=
  fields.foldl (fun document field => document.respellAt field.1 field.2) document

section Present

variable {members : Members} {name : String} {change : Json → Json}

theorem lookup_alterMember (other : String) :
    (alterMember name change members).lookup other =
      (members.lookup other).map fun value => if other = name then change value else value := by
  induction members with
  | nil => rfl
  | cons member rest ih =>
      obtain ⟨first, value⟩ := member
      rw [alterMember, List.map_cons, ← alterMember]
      by_cases equal : other = first
      · subst equal
        simp
      · simpa [List.lookup_cons, beq_eq_false_iff_ne.mpr equal] using ih

theorem lookup_filter_ne (other : String) :
    (members.filter fun (first, _) => first ≠ name).lookup other =
      if other = name then none else members.lookup other := by
  induction members with
  | nil => simp
  | cons member rest ih =>
      obtain ⟨first, value⟩ := member
      by_cases dropped : first = name
      · rw [List.filter_cons_of_neg (by simpa using dropped), ih]
        split
        next => rfl
        next different =>
          simp [List.lookup_cons,
            beq_eq_false_iff_ne.mpr fun same => different (same.trans dropped)]
      · rw [List.filter_cons_of_pos (by simpa using dropped)]
        by_cases equal : other = first
        · subst equal
          simp [dropped]
        · simpa [List.lookup_cons, beq_eq_false_iff_ne.mpr equal] using ih

theorem present?_alterMember (solid : ∀ value, (change value).isNull = value.isNull) :
    present? (alterMember name change members) name = (present? members name).map change := by
  rw [present?, present?, lookup_alterMember]
  cases members.lookup name with
  | none => rfl
  | some value => cases null : value.isNull <;> simp [Option.filter_some, solid, null]

theorem present?_alterMember_of_ne {other : String} (different : other ≠ name) :
    present? (alterMember name change members) other = present? members other := by
  rw [present?, present?, lookup_alterMember]
  cases members.lookup other <;> simp [different]

end Present

end Json

/-! ## Members that are read alike -/

/-- What stands under a name is the same, or is respelled. -/
def ReadsAlike (left right : Members) (name : String) : Prop :=
  Json.present? right name = Json.present? left name ∨
    Json.present? right name = (Json.present? left name).map Json.respelled

/-- Items that are alike: either the same, or two sections that are. -/
inductive AlikeItem (alike : Members → Members → Prop) : Json → Json → Prop
  | same (item : Json) : AlikeItem alike item item
  | object {left right : Members} (inside : alike left right) :
      AlikeItem alike (.object left) (.object right)

/-- Under a name the same stands, or is respelled, or two sections stand that are alike. -/
def HoldsAlike (alike : Members → Members → Prop) (left right : Members) (name : String) : Prop :=
  ReadsAlike left right name ∨ ∃ inner other, Json.present? left name = some (.object inner) ∧
    Json.present? right name = some (.object other) ∧ alike inner other

/-- Under a name the same stands, or is respelled, or two arrays stand with items that are alike. -/
def ListsAlike (alike : Members → Members → Prop) (left right : Members) (name : String) : Prop :=
  ReadsAlike left right name ∨ ∃ items others, Json.present? left name = some (.array items) ∧
    Json.present? right name = some (.array others) ∧ List.Forall₂ (AlikeItem alike) items others

section Edits

variable {members : Members} {name : String} {alike : Members → Members → Prop}
  {edit : Members → Members}

theorem ReadsAlike.respellMember (other : String) :
    ReadsAlike members (Json.respellMember name members) other := by
  rw [Json.respellMember]
  split
  next null =>
    refine .inl ?_
    rw [Json.present?, Json.lookup_filter_ne, Json.present?]
    split
    next same =>
      subst same
      cases found : members.lookup other with
      | none => rfl
      | some value =>
          rw [found, Option.any_some] at null
          simp [Option.filter_some, null]
    next => rfl
  next =>
    by_cases same : other = name
    · subst same
      exact .inr (Json.present?_alterMember Json.isNull_respelled)
    · exact .inl (Json.present?_alterMember_of_ne same)

theorem ReadsAlike.alterMember {change : Json → Json} {other : String} (different : other ≠ name) :
    ReadsAlike members (Json.alterMember name change members) other :=
  .inl (Json.present?_alterMember_of_ne different)

theorem AlikeItem.onObject (inside : ∀ members, alike members (edit members)) (item : Json) :
    AlikeItem alike item (Json.onObject edit item) := by
  cases item with
  | object members => exact .object (inside members)
  | _ => exact .same _

theorem HoldsAlike.alterMember (inside : ∀ members, alike members (edit members)) :
    HoldsAlike alike members (Json.alterMember name (Json.onObject edit) members) name := by
  have present : Json.present? (Json.alterMember name (Json.onObject edit) members) name =
      (Json.present? members name).map (Json.onObject edit) :=
    Json.present?_alterMember fun value => by cases value <;> rfl
  cases found : Json.present? members name with
  | none => exact .inl (.inl (by simp [present, found]))
  | some value =>
      rw [found] at present
      cases value with
      | object inner => exact .inr ⟨inner, edit inner, found, present, inside inner⟩
      | _ => exact .inl (.inl (present.trans found.symm))

theorem ListsAlike.alterMember (position : Nat) (inside : ∀ members, alike members (edit members)) :
    ListsAlike alike members
      (Json.alterMember name (Json.onItem position (Json.onObject edit)) members) name := by
  have present : Json.present?
      (Json.alterMember name (Json.onItem position (Json.onObject edit)) members) name =
        (Json.present? members name).map (Json.onItem position (Json.onObject edit)) :=
    Json.present?_alterMember fun value => by cases value <;> rfl
  have items (items : List Json) (position : Nat) :
      List.Forall₂ (AlikeItem alike) items (items.modify position (Json.onObject edit)) := by
    induction items generalizing position with
    | nil => cases position <;> exact .nil
    | cons item rest ih =>
        cases position with
        | zero => exact .cons (.onObject inside item) (List.forall₂_same.mpr fun _ _ => .same _)
        | succ position => exact .cons (.same item) (ih position)
  cases found : Json.present? members name with
  | none => exact .inl (.inl (by simp [present, found]))
  | some value =>
      rw [found] at present
      cases value with
      | array listed => exact .inr ⟨listed, _, found, present, items listed position⟩
      | _ => exact .inl (.inl (present.trans found.symm))

end Edits

/-! ## Accessors -/

namespace Section

variable {path : Path} {left right : Members} {name : String}

theorem optional_alike {result : Type} {expected : Expected} {convert : Json → Option result}
    (alike : ReadsAlike left right name)
    (same : ∀ value, convert value.respelled = convert value) :
    (⟨path, right⟩ : Section).optional name expected convert =
      (⟨path, left⟩ : Section).optional name expected convert := by
  rcases alike with equal | respelled
  · exact (optional_congr equal.symm _ _).symm
  · rw [optional, optional, get?, get?, respelled]
    cases Json.present? left name with
    | none => rfl
    | some value =>
        simp only [Option.map_some, same]
        rfl

variable (alike : ReadsAlike left right name)
include alike

theorem optText_alike :
    (⟨path, right⟩ : Section).optText name = (⟨path, left⟩ : Section).optText name :=
  optional_alike alike scalarText?_respelled

theorem optInt64_alike :
    (⟨path, right⟩ : Section).optInt64 name = (⟨path, left⟩ : Section).optInt64 name :=
  optional_alike alike scalarInt64?_respelled

theorem optBool_alike :
    (⟨path, right⟩ : Section).optBool name = (⟨path, left⟩ : Section).optBool name :=
  optional_alike alike scalarBool?_respelled

theorem optObject_alike :
    (⟨path, right⟩ : Section).optObject name = (⟨path, left⟩ : Section).optObject name :=
  optional_alike alike Json.members?_respelled

theorem optInt32_alike :
    (⟨path, right⟩ : Section).optInt32 name = (⟨path, left⟩ : Section).optInt32 name := by
  rw [optInt32, optInt32, optInt64_alike alike]
  rfl

theorem optArray_alike :
    (⟨path, right⟩ : Section).optArray name = (⟨path, left⟩ : Section).optArray name := by
  rw [optArray, optArray, optional_alike alike Json.items?_respelled]

theorem requiredText_alike :
    (⟨path, right⟩ : Section).requiredText name = (⟨path, left⟩ : Section).requiredText name := by
  rw [requiredText, requiredText, optText_alike alike]
  rfl

theorem requiredInt64_alike :
    (⟨path, right⟩ : Section).requiredInt64 name =
      (⟨path, left⟩ : Section).requiredInt64 name := by
  rw [requiredInt64, requiredInt64, optInt64_alike alike]
  rfl

theorem jars_alike :
    (⟨path, right⟩ : Section).jars name = (⟨path, left⟩ : Section).jars name := by
  rcases alike with equal | respelled
  · exact (jars_congr equal.symm).symm
  · rw [jars, jars, JarList.read, JarList.read, get?, get?, respelled]
    cases Json.present? left name with
    | none => rfl
    | some value =>
        rw [Option.map_some, JarList.items_respelled]
        rfl

end Section

section Nested

variable {alike : Members → Members → Prop} {path : Path} {left right : Members} {name : String}
  {α β γ δ : Type} {essence : α → β} {outcome : γ → δ}

/-- Items that are alike are read alike where sections that are alike are. -/
theorem map_ofItem_bind {next : Section → Except ClassificationError γ} {item other : Json}
    (same : AlikeItem alike item other)
    (inside : ∀ {left right : Members}, alike left right →
      outcome <$> next ⟨path, right⟩ = outcome <$> next ⟨path, left⟩) :
    outcome <$> (Section.ofItem path other >>= next) =
      outcome <$> (Section.ofItem path item >>= next) := by
  cases same with
  | same => rfl
  | object sections => exact inside sections

theorem map_readItems {read : Path → Json → Except ClassificationError α} {items others : List Json}
    (same : List.Forall₂ (AlikeItem alike) items others)
    (each : ∀ {place : Path} {item other : Json}, AlikeItem alike item other →
      essence <$> read place other = essence <$> read place item) :
    List.map essence <$> Section.readItems path read others =
      List.map essence <$> Section.readItems path read items := by
  rw [Section.readItems, Section.readItems]
  generalize 0 = start
  induction same generalizing start with
  | nil => rfl
  | cons first _ ih =>
      simp only [List.zipIdx_cons, List.mapM_cons]
      refine map_bind_congr (each first) fun value result front => ?_
      refine map_bind_congr (ih _) fun values results back => ?_
      exact congrArg Except.ok (congrArg₂ List.cons front back)

/-- Arrays of items that are alike are read alike. -/
theorem map_optArray_bind {read : Path → Json → Except ClassificationError α} {place : Path}
    {next later : List α → Except ClassificationError γ} (same : ListsAlike alike left right name)
    (each : ∀ {place : Path} {item other : Json}, AlikeItem alike item other →
      essence <$> read place other = essence <$> read place item)
    (rest : ∀ values results, results.map essence = values.map essence →
      outcome <$> later results = outcome <$> next values) :
    outcome <$> ((⟨path, right⟩ : Section).optArray name >>= fun others =>
        Section.readItems place read others >>= later) =
      outcome <$> ((⟨path, left⟩ : Section).optArray name >>= fun items =>
        Section.readItems place read items >>= next) := by
  rcases same with unchanged | ⟨items, others, isLeft, isRight, same⟩
  · rw [Section.optArray_alike unchanged]
    exact map_bind_same fun items => map_bind_same fun values => rest values values rfl
  · have readLeft : (⟨path, left⟩ : Section).optArray name = .ok items :=
      (Section.optArray_ok_iff _ _ _).mpr (.inr isLeft)
    have readRight : (⟨path, right⟩ : Section).optArray name = .ok others :=
      (Section.optArray_ok_iff _ _ _).mpr (.inr isRight)
    rw [readLeft, readRight]
    change outcome <$> (Section.readItems place read others >>= later) =
      outcome <$> (Section.readItems place read items >>= next)
    exact map_bind_congr (map_readItems same each) rest

/-- Arrays of items that are read to the same are read to the same. -/
theorem map_optArray_bind_same {read : Path → Json → Except ClassificationError α} {place : Path}
    {next later : List α → Except ClassificationError γ} (same : ListsAlike alike left right name)
    (each : ∀ {place : Path} {item other : Json}, AlikeItem alike item other →
      read place other = read place item)
    (rest : ∀ values, outcome <$> later values = outcome <$> next values) :
    outcome <$> ((⟨path, right⟩ : Section).optArray name >>= fun others =>
        Section.readItems place read others >>= later) =
      outcome <$> ((⟨path, left⟩ : Section).optArray name >>= fun items =>
        Section.readItems place read items >>= next) := by
  refine map_optArray_bind same (fun alike => congrArg (Functor.map id) (each alike))
    fun values results equal => ?_
  obtain rfl : results = values := by simpa using equal
  exact rest results

/-- Objects that are alike are read alike, and so is what is read without one. -/
theorem map_optObject_bind {next later : Option Members → Except ClassificationError γ}
    (same : HoldsAlike alike left right name) (reflexive : ∀ members, alike members members)
    (without : outcome <$> later none = outcome <$> next none)
    (inside : ∀ {inner other : Members}, alike inner other →
      outcome <$> later (some other) = outcome <$> next (some inner)) :
    outcome <$> ((⟨path, right⟩ : Section).optObject name >>= later) =
      outcome <$> ((⟨path, left⟩ : Section).optObject name >>= next) := by
  rcases same with equal | ⟨inner, other, isLeft, isRight, sections⟩
  · rw [Section.optObject_alike equal]
    refine map_bind_same fun found => ?_
    cases found with
    | none => exact without
    | some inner => exact inside (reflexive inner)
  · have readLeft : (⟨path, left⟩ : Section).optObject name = .ok (some inner) :=
      (Section.optObject_ok_iff _ _ _).mpr isLeft
    have readRight : (⟨path, right⟩ : Section).optObject name = .ok (some other) :=
      (Section.optObject_ok_iff _ _ _).mpr isRight
    rw [readLeft, readRight]
    exact inside sections

end Nested

namespace Snapshot

/-! ## Sections that are alike -/

/-- Sections that hold nothing but members to be read one by one. -/
def AlikePlain (left right : Members) : Prop := ∀ name, ReadsAlike left right name

/-- Extensions that are alike. -/
structure AlikeExtension (left right : Members) : Prop where
  subsystems : ListsAlike AlikePlain left right "subsystems"
  others : ∀ name ≠ "subsystems", ReadsAlike left right name

/-- Configurations that are alike. -/
structure AlikeConfiguration (left right : Members) : Prop where
  deployments : ListsAlike AlikePlain left right "deployments"
  extensions : ListsAlike AlikeExtension left right "extensions"
  others : ∀ name, name ≠ "deployments" → name ≠ "extensions" → ReadsAlike left right name

/-- Servers that are alike. -/
structure AlikeServer (left right : Members) : Prop where
  configuration : HoldsAlike AlikeConfiguration left right "eap-configuration"
  others : ∀ name ≠ "eap-configuration", ReadsAlike left right name

/-- Documents that are alike. -/
structure AlikeRoot (left right : Members) : Prop where
  basic : HoldsAlike AlikePlain left right "basic"
  server : HoldsAlike AlikeServer left right "eap"
  update : HoldsAlike AlikePlain left right "updated-jars"
  others : ∀ name, name ≠ "basic" → name ≠ "eap" → name ≠ "updated-jars" →
    ReadsAlike left right name

theorem AlikePlain.refl (members : Members) : AlikePlain members members := fun _ => .inl rfl

section Plain

variable {left right : Members} (alike : AlikePlain left right)
include alike

theorem AlikePlain.extension : AlikeExtension left right where
  subsystems := .inl (alike _)
  others name _ := alike name

theorem AlikePlain.configuration : AlikeConfiguration left right where
  deployments := .inl (alike _)
  extensions := .inl (alike _)
  others name _ _ := alike name

theorem AlikePlain.server : AlikeServer left right where
  configuration := .inl (alike _)
  others name _ := alike name

theorem AlikePlain.root : AlikeRoot left right where
  basic := .inl (alike _)
  server := .inl (alike _)
  update := .inl (alike _)
  others name _ _ _ := alike name

end Plain

/-! ## Readers -/

section Readers

variable {path : Path} {left right : Members}

open Section

theorem deployment_alike {item other : Json} (same : AlikeItem AlikePlain item other) :
    Deployment.gist <$> deployment path other = Deployment.gist <$> deployment path item := by
  refine map_ofItem_bind same fun {left right} alike => ?_
  simp only [requiredText_alike (alike _), optText_alike (alike _), optBool_alike (alike _),
    jars_alike (alike _), map_bind, map_pure, Deployment.gist]

theorem extensionSubsystem_alike {item other : Json} (same : AlikeItem AlikePlain item other) :
    extensionSubsystem path other = extensionSubsystem path item := by
  rw [← id_map (extensionSubsystem path other), ← id_map (extensionSubsystem path item)]
  refine map_ofItem_bind same fun {left right} alike => ?_
  simp only [requiredText_alike (alike _), optInt32_alike (alike _)]

theorem extensionOf_alike {item other : Json} (same : AlikeItem AlikeExtension item other) :
    extensionOf path other = extensionOf path item := by
  rw [← id_map (extensionOf path other), ← id_map (extensionOf path item)]
  refine map_ofItem_bind same fun {left right} alike => ?_
  refine map_optArray_bind_same alike.subsystems extensionSubsystem_alike fun values => ?_
  rw [requiredText_alike (alike.others "module" (by decide))]

theorem descriptors_alike (alike : AlikeConfiguration left right) :
    descriptors ⟨path, right⟩ = descriptors ⟨path, left⟩ := by
  have reads {name : String} (plain : name ≠ "deployments" ∧ name ≠ "extensions") :
      (⟨path, right⟩ : Section).optText name = (⟨path, left⟩ : Section).optText name :=
    optText_alike (alike.others name plain.1 plain.2)
  simp (disch := decide) only [descriptors, reads]

theorem configuration_alike (alike : AlikeConfiguration left right) :
    Configuration.gist <$> configuration ⟨path, right⟩ =
      Configuration.gist <$> configuration ⟨path, left⟩ := by
  refine map_optArray_bind alike.deployments (fun same => deployment_alike same)
    fun deployments others sameDeployments => ?_
  refine map_optArray_bind_same alike.extensions extensionOf_alike fun extensions => ?_
  simp only [optObject_alike (alike.others "subsystems" (by decide) (by decide)),
    descriptors_alike alike, map_bind, map_pure, Configuration.gist, sameDeployments]

theorem optConfiguration_alike (alike : AlikeServer left right) :
    Option.map Configuration.gist <$> optConfiguration ⟨path, right⟩ =
      Option.map Configuration.gist <$> optConfiguration ⟨path, left⟩ := by
  refine map_optObject_bind alike.configuration
    (fun members => (AlikePlain.refl members).configuration) rfl fun {inner other} inside => ?_
  have same := congrArg (Functor.map some)
    (@configuration_alike (path ++ [.key "eap-configuration"]) _ _ inside)
  simp only [Functor.map_map] at same ⊢
  exact same

/-- Servers that are alike are read alike, on machines that differ in what is kept at most. -/
theorem server_alike (alike : AlikeServer left right) {first second : Members} {found other : Jvm}
    (machines : other.gist = found.gist) (raw text : String) :
    AppServer.gist <$> server ⟨[], second⟩ other right text =
      AppServer.gist <$> server ⟨[], first⟩ found left raw := by
  refine map_bind_congr (optConfiguration_alike alike) fun configuration another same => ?_
  simp only [optText_alike (alike.others "eap-version" (by decide)),
    optBool_alike (alike.others "eap-xp" (by decide)),
    optBool_alike (alike.others "eap-yaml-extension" (by decide)),
    optBool_alike (alike.others "eap-bootable-jar" (by decide)),
    optBool_alike (alike.others "eap-use-git" (by decide)),
    jars_alike (alike.others "eap-modules" (by decide)), map_bind, map_pure, AppServer.gist, same,
    machines]
  rfl

theorem machine_alike (announcement : Announcement) (alike : AlikeRoot left right)
    {first second : Members} (inside : AlikePlain first second) :
    Jvm.gist <$> machine announcement ⟨path, right⟩ second =
      Jvm.gist <$> machine announcement ⟨path, left⟩ first := by
  have linkingHash (identity : Identity) :
      linkingHashOf ⟨path, right⟩ identity = linkingHashOf ⟨path, left⟩ identity := by
    rw [linkingHashOf, optText_alike (alike.others "idHash" (by decide) (by decide) (by decide))]
    rfl
  simp only [machine, pathOf, linkingHash, requiredText_alike (inside _),
    requiredInt64_alike (inside _), optText_alike (inside _), optInt64_alike (inside _),
    optInt32_alike (inside _),
    jars_alike (alike.others "jars" (by decide) (by decide) (by decide)), map_bind, map_pure,
    Jvm.gist]

theorem delta_alike {first second : Members} (inside : AlikePlain first second) :
    delta ⟨path, right⟩ second = delta ⟨path, left⟩ first := by
  simp only [delta, pathOf, requiredText_alike (inside _), jars_alike (inside _)]
  rfl

theorem messageOf_alike (announcement : Announcement) (alike : AlikeRoot left right)
    (raw text : String) :
    Message.gist <$> messageOf announcement text right =
      Message.gist <$> messageOf announcement raw left := by
  refine map_optObject_bind alike.basic .refl ?_ fun {first second} basic => ?_
  · -- Without a `basic` section it makes no difference what object stands under `eap`.
    refine map_optObject_bind alike.server (fun members => (AlikePlain.refl members).server) ?_
      fun {_ _} _ => ?_
    all_goals
      exact map_optObject_bind alike.update .refl rfl fun inside =>
        congrArg (fun read => Message.gist <$> Message.update <$> read) (delta_alike inside)
  · refine map_optObject_bind alike.server (fun members => (AlikePlain.refl members).server) ?_
      fun {eap other} server => ?_
    · refine map_bind_congr (machine_alike announcement alike basic) fun found other same => ?_
      exact congrArg (fun machine => Except.ok (Message.newInstance (.jvm machine))) same
    · refine map_bind_congr (machine_alike announcement alike basic) fun found other same => ?_
      refine map_bind_congr (server_alike server same raw text) fun found other same => ?_
      exact congrArg (fun server => Except.ok (Message.newInstance (.appServer server))) same

end Readers

/-! ## Respelled documents -/

/-- A place of a document where a section stands whose members are read by name. -/
inductive IsSectionPlace : Path → Prop
  | root : IsSectionPlace []
  | basic : IsSectionPlace [.key "basic"]
  | update : IsSectionPlace [.key "updated-jars"]
  | server : IsSectionPlace [.key "eap"]
  | configuration : IsSectionPlace configurationPlace
  | item {place : Path} (listed : IsItemPlace place) : IsSectionPlace place

section Edited

variable {edit : Members → Members} (position : Nat) (name : String) (members : Members)

theorem alikePlain_respellMember : AlikePlain members (Json.respellMember name members) :=
  fun other => .respellMember other

theorem alikeExtension_subsystem : AlikeExtension members
    (Json.alterMember "subsystems" (Json.onItem position (Json.onObject (Json.respellMember name)))
      members) where
  subsystems := .alterMember position (alikePlain_respellMember name)
  others _ different := .alterMember different

theorem alikeConfiguration_deployment : AlikeConfiguration members
    (Json.alterMember "deployments" (Json.onItem position (Json.onObject (Json.respellMember name)))
      members) where
  deployments := .alterMember position (alikePlain_respellMember name)
  extensions := .inl (.alterMember (by decide))
  others _ different _ := .alterMember different

theorem alikeConfiguration_extension (inside : ∀ members, AlikeExtension members (edit members)) :
    AlikeConfiguration members
      (Json.alterMember "extensions" (Json.onItem position (Json.onObject edit)) members) where
  deployments := .inl (.alterMember (by decide))
  extensions := .alterMember position inside
  others _ _ different := .alterMember different

theorem alikeServer_configuration
    (inside : ∀ members, AlikeConfiguration members (edit members)) :
    AlikeServer members
      (Json.alterMember "eap-configuration" (Json.onObject edit) members) where
  configuration := .alterMember inside
  others _ different := .alterMember different

theorem alikeRoot_server (inside : ∀ members, AlikeServer members (edit members)) :
    AlikeRoot members (Json.alterMember "eap" (Json.onObject edit) members) where
  basic := .inl (.alterMember (by decide))
  server := .alterMember inside
  update := .inl (.alterMember (by decide))
  others _ _ different _ := .alterMember different

theorem alikeRoot_configuration (inside : ∀ members, AlikeConfiguration members (edit members)) :
    AlikeRoot members (Json.alterMember "eap"
      (Json.onObject (Json.alterMember "eap-configuration" (Json.onObject edit))) members) :=
  alikeRoot_server members fun members => alikeServer_configuration members inside

/-- Where a member of one of its sections is respelled, a document stays alike. -/
theorem exists_respellAt {place : Path} (isSection : IsSectionPlace place) :
    ∃ others, Json.respellAt place name (.object members) = .object others ∧
      AlikeRoot members others := by
  cases isSection with
  | root => exact ⟨_, rfl, (alikePlain_respellMember name members).root⟩
  | basic =>
      exact ⟨_, rfl, {
        basic := .alterMember (alikePlain_respellMember name)
        server := .inl (.alterMember (by decide))
        update := .inl (.alterMember (by decide))
        others := fun _ different _ _ => .alterMember different }⟩
  | update =>
      exact ⟨_, rfl, {
        basic := .inl (.alterMember (by decide))
        server := .inl (.alterMember (by decide))
        update := .alterMember (alikePlain_respellMember name)
        others := fun _ _ _ different => .alterMember different }⟩
  | server =>
      exact ⟨_, rfl, alikeRoot_server members fun members =>
        (alikePlain_respellMember name members).server⟩
  | configuration =>
      exact ⟨_, rfl, alikeRoot_configuration members fun members =>
        (alikePlain_respellMember name members).configuration⟩
  | item listed =>
      cases listed with
      | deployment position =>
          exact ⟨_, rfl, alikeRoot_configuration members
            (alikeConfiguration_deployment position name)⟩
      | extension position =>
          exact ⟨_, rfl, alikeRoot_configuration members fun members =>
            alikeConfiguration_extension position members fun members =>
              (alikePlain_respellMember name members).extension⟩
      | subsystem position inner =>
          exact ⟨_, rfl, alikeRoot_configuration members fun members =>
            alikeConfiguration_extension position members (alikeExtension_subsystem inner name)⟩

end Edited

/-- Documents that differ in the spelling of members of their sections are read alike. -/
theorem messageOf_respelled {fields : List (Path × String)}
    (inSections : ∀ field ∈ fields, IsSectionPlace field.1) (members : Members) :
    ∃ others, Json.respellAll fields (.object members) = .object others ∧
      ∀ (announcement : Announcement) (raw text : String),
        Message.gist <$> messageOf announcement text others =
          Message.gist <$> messageOf announcement raw members := by
  induction fields generalizing members with
  | nil =>
      have same := (AlikePlain.refl members).root
      exact ⟨members, rfl, fun announcement => messageOf_alike announcement same⟩
  | cons field rest ih =>
      obtain ⟨next, respelled, alike⟩ :=
        exists_respellAt field.2 members (inSections field List.mem_cons_self)
      obtain ⟨others, same, read⟩ :=
        ih (fun field member => inSections field (List.mem_cons_of_mem _ member)) next
      refine ⟨others, ?_, fun announcement raw text => ?_⟩
      · rw [← same, ← respelled]
        rfl
      · exact (read announcement raw text).trans (messageOf_alike announcement alike raw raw)

/-- A document gives the same message, or is refused for the same reason at the same place, when
any members of its sections are respelled, one after the other: a number or a truth value as its
text, `null` by leaving the member out.  Only what is kept as it came may differ. -/
theorem classify_respelled (announcement : Announcement) {document other : String}
    {members : Members} {fields : List (Path × String)}
    (inSections : ∀ field ∈ fields, IsSectionPlace field.1)
    (isObject : Json.read? document = some (.object members))
    (respelled : Json.read? other = some (Json.respellAll fields (.object members))) :
    Message.gist <$> classify announcement other =
      Message.gist <$> classify announcement document := by
  obtain ⟨others, same, read⟩ := messageOf_respelled inSections members
  rw [same] at respelled
  have through (attempt : Except ClassificationError Message) :
      Message.gist <$> attempt.mapError IngestError.classification =
        (Message.gist <$> attempt).mapError .classification := by
    cases attempt <;> rfl
  rw [classify_of_object isObject, classify_of_object respelled, through, through,
    read announcement document other]

/-- A server told with numbers of several forms, truth values and `null`. -/
def numericServer : String :=
  "\x7b\"basic\":\x7b\"system.hostname\":-2.5e20,\"jvm.report_time\":-7,\"jvm.pid\":null\x7d," ++
    "\"eap\":\x7b\"eap-configuration\":\x7b\"name\":18446744073709551615,\"extensions\":" ++
      "[\x7b\"module\":0.5,\"subsystems\":[\x7b\"name\":false\x7d]\x7d]\x7d\x7d\x7d"

/-- Its members. -/
def numericServerMembers : Members :=
  [("basic", .object [("jvm.pid", .null), ("jvm.report_time", .int (-7)),
      ("system.hostname", .number (.double ⟨true, 7629394531250000, 15⟩))]),
    ("eap", .object [("eap-configuration", .object [
      ("extensions", .array [.object [("module", .number (.double ⟨false, 4503599627370496, -53⟩)),
        ("subsystems", .array [.object [("name", .bool false)]])]]),
      ("name", .int 18446744073709551615)])])]

/-- The same server with texts in their place, and without what is `null`. -/
def textualServer : String :=
  "\x7b\"basic\":\x7b\"system.hostname\":\"-2.5e+20\",\"jvm.report_time\":\"-7\"\x7d," ++
    "\"eap\":\x7b\"eap-configuration\":\x7b\"name\":\"18446744073709551615\",\"extensions\":" ++
      "[\x7b\"module\":\"0.5\",\"subsystems\":[\x7b\"name\":\"false\"\x7d]\x7d]\x7d\x7d\x7d"

/-- The members that the two tell in different spellings. -/
def spelledApart : List (Path × String) :=
  [([.key "basic"], "system.hostname"), ([.key "basic"], "jvm.report_time"),
    ([.key "basic"], "jvm.pid"), (configurationPlace, "name"),
    (extensionsPlace ++ [.index 0], "module"), (subsystemsPlace 0 ++ [.index 0], "name")]

theorem classify_textualServer :
    let announcement : Announcement := ⟨none, "o", "", none, default, none, false⟩
    (∀ field ∈ spelledApart, IsSectionPlace field.1) ∧
      Json.read? numericServer = some (.object numericServerMembers) ∧
      Json.read? textualServer =
        some (Json.respellAll spelledApart (.object numericServerMembers)) ∧
      Message.gist <$> classify announcement textualServer =
        Message.gist <$> classify announcement numericServer := by
  intro announcement
  have inSections : ∀ field ∈ spelledApart, IsSectionPlace field.1 := by
    simp only [spelledApart, List.forall_mem_cons]
    exact ⟨.basic, .basic, .basic, .configuration, .item (.extension 0), .item (.subsystem 0 0),
      nofun⟩
  have isObject : Json.read? numericServer = some (.object numericServerMembers) := by
    decide +kernel
  have respelled : Json.read? textualServer =
      some (Json.respellAll spelledApart (.object numericServerMembers)) := by
    decide +kernel
  exact ⟨inSections, isObject, respelled,
    classify_respelled announcement inSections isObject respelled⟩

end Snapshot

end JarLedger
