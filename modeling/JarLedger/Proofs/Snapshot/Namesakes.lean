import JarLedger.Proofs.Snapshot.Identity

/-!
# Two documents about one machine

Six members of the `basic` section tell which machine a document is about.  Two documents without a
name of their own that tell the same get one name, whatever stands in the rest of them and of their
announcements: one may describe a bare machine and the other a server, in another order and another
spelling.  So a store that holds one of the two instances refuses the other
(`Snapshot.TellAlike.refused`).
-/

namespace JarLedger

namespace Json

/-- The text of the scalar at a place. -/
def textAt? (place : Path) (document : Json) : Option String :=
  (document.at? place).bind Section.scalarText?

/-- The 64-bit integer that a scalar at a place spells. -/
def integerAt? (place : Path) (document : Json) : Option Int64 :=
  (document.at? place).bind Section.scalarInt64?

end Json

namespace Section

variable {part : Section} {name : String}

theorem eq_of_optText {found : Option String} (read : part.optText name = .ok found) :
    found = Json.textAt? [.key name] (.object part.members) :=
  eq_of_optional rfl read

theorem eq_of_optInt64 {found : Option Int64} (read : part.optInt64 name = .ok found) :
    found = Json.integerAt? [.key name] (.object part.members) :=
  eq_of_optional rfl read

/-- A value that has to be there was found. -/
theorem found_of_required {result : Type} {value : result}
    {attempt : Except ClassificationError (Option result)}
    (read : part.required name attempt = .ok value) : attempt = .ok (some value) := by
  obtain ⟨found, attempted, given⟩ := bind_eq_ok_iff.mp read
  cases found with
  | none => cases given
  | some other =>
      cases given
      exact attempted

end Section

namespace Snapshot

open Grammar

/-- Place of a member of the `basic` section. -/
def basicPlace (name : String) : Path := [.key "basic", .key name]

/-- The members of the `basic` section that identify a machine by texts. -/
def identityTexts : List String :=
  ["system.hostname", "java.vm.specification.vendor", "java.runtime.version", "java.home"]

/-- The members of the `basic` section that identify a machine by numbers. -/
def identityNumbers : List String := ["jvm.report_time", "jvm.pid"]

/-- Two documents tell the same of the machines that they are about, where a text that is absent
counts as empty. -/
structure TellAlike (left right : Json) : Prop where
  texts : ∀ name ∈ identityTexts,
    (left.textAt? (basicPlace name)).getD "" = (right.textAt? (basicPlace name)).getD ""
  numbers : ∀ name ∈ identityNumbers,
    left.integerAt? (basicPlace name) = right.integerAt? (basicPlace name)

/-- An identity has the fields that a document tells. -/
structure Tells (document : Json) (identity : Identity) : Prop where
  hostname : document.textAt? (basicPlace "system.hostname") = some identity.hostname
  launchTime : document.integerAt? (basicPlace "jvm.report_time") = some identity.launchTime
  vendor : document.textAt? (basicPlace "java.vm.specification.vendor") = identity.vendor
  versionString : document.textAt? (basicPlace "java.runtime.version") = identity.versionString
  javaHome : document.textAt? (basicPlace "java.home") = identity.javaHome
  pid : document.integerAt? (basicPlace "jvm.pid") = identity.pid

theorem tells_of_machine {announcement : Announcement} {members basic : Members} {found : Jvm}
    (isBasic : Json.present? members "basic" = some (.object basic))
    (read : machine announcement ⟨[], members⟩ basic = .ok found) :
    Tells (.object members) found.identity := by
  simp only [machine, bind_eq_ok_iff] at read
  obtain ⟨_, hostname, _, launchTime, _, vendor, _, versionString, _, javaHome, _, pid, _, -, _, -,
    _, -, _, -, _, -, _, -, _, -, same⟩ := read
  cases same
  have inside (name : String) : Json.at? (basicPlace name) (.object members) =
      Json.at? [.key name] (.object basic) := Json.at?_of_present isBasic _
  constructor
  all_goals simp only [Json.textAt?, Json.integerAt?, inside]
  · exact (Section.eq_of_optText (Section.found_of_required hostname)).symm
  · exact (Section.eq_of_optInt64 (Section.found_of_required launchTime)).symm
  · exact (Section.eq_of_optText vendor).symm
  · exact (Section.eq_of_optText versionString).symm
  · exact (Section.eq_of_optText javaHome).symm
  · exact (Section.eq_of_optInt64 pid).symm

/-- The identity of a new instance is what its document tells, whatever kind the instance is of. -/
theorem tells_of_messageOf {announcement : Announcement} {raw : String} {members : Members}
    {new : Instance} (read : messageOf announcement raw members = .ok (.newInstance new)) :
    Tells (.object members) new.machine.identity := by
  cases reads_of_messageOf read with
  | machine isBasic noServer readMachine => exact tells_of_machine isBasic readMachine
  | server isBasic isServer readMachine readServer =>
      rw [Instance.machine, (jars_of_server readServer).1]
      exact tells_of_machine isBasic readMachine

/-- Documents that tell the same are about identities that agree. -/
theorem TellAlike.agrees {left right : Json} (alike : TellAlike left right)
    {identity other : Identity} (tells : Tells left identity) (others : Tells right other) :
    identity.Agrees other := by
  have text {name : String} (among : name ∈ identityTexts) {found given : Option String}
      (here : left.textAt? (basicPlace name) = found)
      (there : right.textAt? (basicPlace name) = given) : found.getD "" = given.getD "" := by
    rw [← here, ← there, alike.texts name among]
  have number {name : String} (among : name ∈ identityNumbers) {found given : Option Int64}
      (here : left.integerAt? (basicPlace name) = found)
      (there : right.integerAt? (basicPlace name) = given) : found = given := by
    rw [← here, ← there, alike.numbers name among]
  exact {
    hostname := text (by decide) tells.hostname others.hostname
    launchTime := Option.some.inj (number (by decide) tells.launchTime others.launchTime)
    vendor := text (by decide) tells.vendor others.vendor
    versionString := text (by decide) tells.versionString others.versionString
    javaHome := text (by decide) tells.javaHome others.javaHome
    pid := number (by decide) tells.pid others.pid }

/-- A document without a name of its own that brings a new instance. -/
structure Nameless (announcement : Announcement) (document : String) (value : Json)
    (new : Instance) : Prop where
  isJson : Json.read? document = some value
  unnamed : value.nameAt? namePlace = none
  classified : classify announcement document = .ok (.newInstance new)

/-- Without a name of its own an instance is named after what its document tells. -/
theorem Nameless.linkingHash_eq {announcement : Announcement} {document : String} {value : Json}
    {new : Instance} (nameless : Nameless announcement document value new) :
    Tells value new.machine.identity ∧ new.linkingHash = new.machine.identity.linkingHash := by
  obtain ⟨isJson, unnamed, classified⟩ := nameless
  obtain ⟨members, isObject, read⟩ := (classify_ok_iff _ _ _).mp classified
  obtain rfl := Option.some.inj (isJson.symm.trans isObject)
  refine ⟨tells_of_messageOf read, ?_⟩
  rw [linkingHash_of_messageOf read, unnamed, Option.getD_none]

end Snapshot

/-! ## Names that stay taken -/

namespace Ledger

variable {ledger : Ledger} {linkingHash : String}

theorem contains_of_find {stored : StoredInstance}
    (found : ledger.find linkingHash = .ok (some stored)) :
    ledger.byLinkingHash.contains linkingHash = true := by
  rw [find] at found
  cases index : ledger.byLinkingHash.get? linkingHash with
  | none => simp [index] at found
  | some id => exact (SortedMap.contains_iff _ _).mpr ⟨id, index⟩

theorem settle_of_taken {new : Instance}
    (taken : ledger.byLinkingHash.contains new.linkingHash = true) :
    ledger.settle (.newInstance new) =
      (.error (.persistence (.uniqueViolation new.linkingHash)), ledger) := by
  simp only [settle, insert, taken, if_true]

/-- A message takes no name away. -/
theorem contains_settle (taken : ledger.byLinkingHash.contains linkingHash = true)
    (message : Message) :
    (ledger.settle message).2.byLinkingHash.contains linkingHash = true := by
  obtain ⟨id, index⟩ := (SortedMap.contains_iff _ _).mp taken
  cases message with
  | newInstance new =>
      cases index' : ledger.byLinkingHash.get? new.linkingHash with
      | none =>
          rw [settle_of_free index', SortedMap.contains_iff]
          refine ⟨id, ?_⟩
          rw [inserted, SortedMap.get?_insert, if_neg, index]
          rintro rfl
          cases index.symm.trans index'
      | some other =>
          rwa [settle_of_taken ((SortedMap.contains_iff _ _).mpr ⟨other, index'⟩)]
  | update delta =>
      simp only [settle]
      split
      · exact taken
      · rename_i row _
        cases added : ledger.add row.id delta.jars with
        | mk result after =>
            cases result with
            | error cause => exact taken
            | ok count =>
                rw [add] at added
                split at added <;> cases added
                exact taken
      · exact taken

/-- Only its removal frees a name. -/
theorem contains_serve (taken : ledger.byLinkingHash.contains linkingHash = true) {errand : Errand}
    (other : errand ≠ .delete linkingHash) :
    (ledger.serve errand).2.byLinkingHash.contains linkingHash = true := by
  cases errand with
  | reconcile message => exact contains_settle taken message
  | find _ => exact taken
  | counts => exact taken
  | delete removed =>
      rw [serve, delete]
      split
      · exact taken
      · obtain ⟨id, index⟩ := (SortedMap.contains_iff _ _).mp taken
        refine (SortedMap.contains_iff _ _).mpr ⟨id, ?_⟩
        rw [SortedMap.get?_erase, if_neg, index]
        rintro rfl
        exact other rfl

end Ledger

namespace MemoryStore

theorem contains_serveAll {ledger : Ledger} {linkingHash : String}
    (taken : ledger.byLinkingHash.contains linkingHash = true) {errands : List Errand}
    (others : ∀ errand ∈ errands, errand ≠ .delete linkingHash) :
    ∃ after, (Errand.serveAll store errands ⟨ledger, none⟩).2 = ⟨after, none⟩ ∧
      after.byLinkingHash.contains linkingHash = true := by
  induction errands generalizing ledger with
  | nil => exact ⟨ledger, rfl, taken⟩
  | cons errand rest ih =>
      obtain ⟨first, later⟩ := List.forall_mem_cons.mp others
      rw [Errand.serveAll, serve_eq]
      exact ih (Ledger.contains_serve taken first) later

/-- Once a new instance was reconciled it can be read back, or another of its name. -/
theorem exists_find_reconciled {memory : MemoryStore} (sound : memory.committed.Sound)
    (new : Instance) :
    ∃ stored, (store.find new.linkingHash (reconcile store (.newInstance new) memory).2).1 =
      .ok (some stored) := by
  rw [reconcile_eq_settle]
  cases index : memory.committed.byLinkingHash.get? new.linkingHash with
  | none =>
      rw [Ledger.settle_of_free index]
      exact ⟨_, sound.find_inserted index⟩
  | some id =>
      rw [Ledger.settle_of_taken ((SortedMap.contains_iff _ _).mpr ⟨id, index⟩)]
      obtain ⟨entry, member, -⟩ := (sound.indexed _ _).mp index
      refine ⟨Ledger.view id entry, ?_⟩
      simp only [store, Ledger.find, index, sound.entry?_eq_some_iff.mpr member]

end MemoryStore

namespace Snapshot

open MemoryStore (store)

/-- Two documents without names of their own that tell the same machine bring instances of one name,
whatever else they hold and whatever announced them.  A store that holds an instance of that name,
as it does once the first one was reconciled, refuses the second one and stays as it is, until the
name is removed. -/
theorem TellAlike.refused {left right : Json} (alike : TellAlike left right)
    {announcement otherAnnouncement : Announcement} {document otherDocument : String}
    {new other : Instance} (first : Nameless announcement document left new)
    (second : Nameless otherAnnouncement otherDocument right other) :
    new.linkingHash = other.linkingHash ∧
    (∀ calls : List StoreCall, ∃ stored,
      (store.find new.linkingHash
        (reconcile store (.newInstance new) (Usage.run {} calls).memory).2).1 =
          .ok (some stored)) ∧
    (∀ (memory : MemoryStore) (stored : StoredInstance) (errands : List Errand),
      memory.isFree = true → (store.find new.linkingHash memory).1 = .ok (some stored) →
      (∀ errand ∈ errands, errand ≠ .delete new.linkingHash) →
      let later := (Errand.serveAll store errands memory).2
      reconcile store (.newInstance other) later =
        (.error (.persistence (.uniqueViolation other.linkingHash)), later)) := by
  obtain ⟨tells, name⟩ := first.linkingHash_eq
  obtain ⟨tellsOther, otherName⟩ := second.linkingHash_eq
  have same : new.linkingHash = other.linkingHash := by
    rw [name, otherName, Identity.linkingHash_eq_iff]
    exact .inl (Identity.agrees_iff_preimage.mp (alike.agrees tells tellsOther)).1
  refine ⟨same, fun calls => ?_, fun memory stored errands free found others => ?_⟩
  · exact MemoryStore.exists_find_reconciled (Usage.intact_fresh.run calls).1.committed.sound new
  · obtain ⟨ledger, staged⟩ := memory
    obtain rfl : staged = none := Option.isNone_iff_eq_none.mp free
    obtain ⟨after, served, taken⟩ :=
      MemoryStore.contains_serveAll (Ledger.contains_of_find found) others
    intro later
    rw [show later = ⟨after, none⟩ from served, MemoryStore.reconcile_eq_settle,
      Ledger.settle_of_taken (same ▸ taken)]

/-- A bare machine, with its numbers as numbers. -/
def bareMachine : String :=
  "\x7b\"basic\":\x7b\"system.hostname\":\"h\",\"jvm.report_time\":7,\"java.home\":\"\"," ++
    "\"java.runtime.version\":17\x7d,\"jars\":[\"a\"]\x7d"

/-- The same machine as a server, told in another order, with numbers as texts and texts as numbers.
-/
def servingMachine : String :=
  "\x7b\"eap\":\x7b\"eap-version\":\"8\"\x7d,\"idHash\":\"\",\"basic\":\x7b\"jvm.pid\":null," ++
    "\"jvm.report_time\":\" +7 \",\"java.runtime.version\":\"17\",\"java.version\":\"17\"," ++
    "\"system.hostname\":\"h\"\x7d\x7d"

theorem exists_nameless {announcement : Announcement} {document : String} {texts : List String}
    {numbers : List (Option Int64)}
    (told : (Json.read? document).map (fun value => (value.nameAt? namePlace,
      identityTexts.map fun name => (value.textAt? (basicPlace name)).getD "",
      identityNumbers.map fun name => value.integerAt? (basicPlace name))) =
        some (none, texts, numbers))
    (classified : ((classify announcement document).toOption.bind Message.new?).isSome = true) :
    ∃ value new, Nameless announcement document value new ∧
      (identityTexts.map fun name => (value.textAt? (basicPlace name)).getD "") = texts ∧
      (identityNumbers.map fun name => value.integerAt? (basicPlace name)) = numbers := by
  obtain ⟨value, isJson, told⟩ := Option.map_eq_some_iff.mp told
  simp only [Prod.mk.injEq] at told
  obtain ⟨unnamed, texts, numbers⟩ := told
  obtain ⟨new, brought⟩ := Option.isSome_iff_exists.mp classified
  exact ⟨value, new, ⟨isJson, unnamed, classify_of_new? brought⟩, texts, numbers⟩

theorem servingMachine_refused :
    ∃ new other, classify ⟨none, "o", "", none, default, none, false⟩ bareMachine =
        .ok (.newInstance new) ∧
      classify ⟨some "a", "p", "", some "u", ⟨1, 2⟩, none, true⟩ servingMachine =
        .ok (.newInstance other) ∧
      new.linkingHash = other.linkingHash ∧
      let held := (reconcile store (.newInstance new) {}).2
      reconcile store (.newInstance other) held =
        (.error (.persistence (.uniqueViolation other.linkingHash)), held) := by
  obtain ⟨left, new, first, texts, numbers⟩ : ∃ value new,
      Nameless ⟨none, "o", "", none, default, none, false⟩ bareMachine value new ∧
        (identityTexts.map fun name => (value.textAt? (basicPlace name)).getD "") =
          ["h", "", "17", ""] ∧
        (identityNumbers.map fun name => value.integerAt? (basicPlace name)) = [some 7, none] :=
    exists_nameless (by decide +kernel) (by decide +kernel)
  obtain ⟨right, other, second, otherTexts, otherNumbers⟩ : ∃ value new,
      Nameless ⟨some "a", "p", "", some "u", ⟨1, 2⟩, none, true⟩ servingMachine value new ∧
        (identityTexts.map fun name => (value.textAt? (basicPlace name)).getD "") =
          ["h", "", "17", ""] ∧
        (identityNumbers.map fun name => value.integerAt? (basicPlace name)) = [some 7, none] :=
    exists_nameless (by decide +kernel) (by decide +kernel)
  have alike : TellAlike left right :=
    ⟨List.map_inj_left.mp (texts.trans otherTexts.symm),
      List.map_inj_left.mp (numbers.trans otherNumbers.symm)⟩
  obtain ⟨same, stores, refused⟩ := alike.refused first second
  obtain ⟨stored, found⟩ := stores []
  have unused : (Usage.run {} []).memory = {} := rfl
  rw [unused] at found
  have free : (reconcile store (.newInstance new) {}).2.isFree = true := by
    rw [MemoryStore.reconcile_eq_settle]
    rfl
  refine ⟨new, other, first.classified, second.classified, same, ?_⟩
  exact refused _ stored [] free found fun _ absent => absurd absent List.not_mem_nil

end Snapshot
end JarLedger
