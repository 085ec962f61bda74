import JarLedger.Proofs.Duplicates.Jobs
import JarLedger.Proofs.Snapshot.Names
import JarLedger.Proofs.Store.Arrival
import JarLedger.Proofs.Store.Union
import JarLedger.Proofs.Store.Usage

/-!
# Updates find their instance

Documents that are let through one after the other do to the store what their messages do
(`Job.store_processAll`).  A new instance and an update may spell a name differently, as a text, a
number or a truth value.  Still the update goes to the instance that was inserted under the name,
whatever came in between under other names, and without such an instance it changes nothing
(`Job.Amends.finds_introduced`).
-/

namespace JarLedger

namespace Job

open MemoryStore (store)
open Snapshot (classify namePlace updateNamePlace directPlace updateJarsPlace)

variable {σ : Type} {pipeline : Pipeline σ}

/-! ## Documents one after the other -/

/-- The message of a job's document, if it holds one. -/
def message? (job : Job) : Option Message :=
  (classify job.announcement job.payload).toOption

/-- Work on a document without a break. -/
def process (pipeline : Pipeline σ) (job : Job) (space : Workspace σ) :
    Except IngestError PayloadOutcome × Workspace σ :=
  pipeline.processPayload job.announcement job.payload job.source space

/-- Work on documents one after the other. -/
def processAll (pipeline : Pipeline σ) : List Job → Workspace σ → Workspace σ
  | [], space => space
  | job :: rest, space => processAll pipeline rest (job.process pipeline space).2

/-- Where all documents are let through, a document with a message is reconciled. -/
theorem process_of_message {job : Job} {message : Message} (holds : job.message? = some message)
    (state : σ) (readings : Nat) :
    ∃ later, job.process pipeline ⟨state, .acceptAll, readings⟩ =
      ((reconcile pipeline.store message state).1.map .applied,
        ⟨(reconcile pipeline.store message state).2, .acceptAll, later⟩) := by
  have classified := toOption_eq_some_iff.mp holds
  simp only [process, Pipeline.processPayload, Pipeline.gate, DuplicateFilter.shouldProcess,
    classified, Pipeline.reconcile]
  rcases reconcile pipeline.store message state with ⟨failure | reconciled, after⟩
  · exact ⟨readings + 1, rfl⟩
  · exact ⟨readings + 2, rfl⟩

theorem process_of_no_message {job : Job} (silent : job.message? = none) (state : σ)
    (readings : Nat) :
    (job.process pipeline ⟨state, .acceptAll, readings⟩).2 =
      ⟨state, .acceptAll, readings + 1⟩ := by
  rw [message?] at silent
  simp only [process, Pipeline.processPayload, Pipeline.gate, DuplicateFilter.shouldProcess]
  cases classified : classify job.announcement job.payload with
  | error failure => rfl
  | ok message => simp [classified, Except.toOption] at silent

/-- Where all documents are let through, they do to the store what their messages do. -/
theorem store_processAll (pipeline : Pipeline σ) (jobs : List Job) (state : σ) (readings : Nat) :
    ∃ later, processAll pipeline jobs ⟨state, .acceptAll, readings⟩ =
      ⟨(reconcileAll pipeline.store (jobs.filterMap message?) state).2, .acceptAll, later⟩ := by
  induction jobs generalizing state readings with
  | nil => exact ⟨readings, rfl⟩
  | cons job rest ih =>
      rw [processAll]
      cases held : job.message? with
      | none =>
          rw [process_of_no_message held, List.filterMap_cons_none held]
          exact ih state _
      | some message =>
          obtain ⟨between, processed⟩ := process_of_message held state readings
          rw [processed, List.filterMap_cons_some held, reconcileAll]
          exact ih _ between

/-- A document holds no message about an instance. -/
def IsApart (name : String) (job : Job) : Prop :=
  ∀ message, job.message? = some message → message.linkingHash ≠ name

theorem not_brings_of_isApart {name : String} {jobs : List Job}
    (apart : ∀ job ∈ jobs, job.IsApart name) (hash : String) :
    ¬Message.Brings name (jobs.filterMap message?) hash := by
  rintro ⟨delta, member, about, -⟩
  obtain ⟨job, among, holds⟩ := List.mem_filterMap.mp member
  exact apart job among _ holds about

/-! ## The store in memory -/

section InMemory

variable {pipeline : Pipeline MemoryStore} (inMemory : pipeline.store = store)
include inMemory

theorem process_settles {job : Job} {message : Message} (holds : job.message? = some message)
    (memory : MemoryStore) (readings : Nat) :
    ∃ later, job.process pipeline ⟨memory, .acceptAll, readings⟩ =
      ((memory.committed.settle message).1.map .applied,
        ⟨⟨(memory.committed.settle message).2, none⟩, .acceptAll, later⟩) := by
  obtain ⟨later, processed⟩ := process_of_message holds memory readings
  rw [inMemory, MemoryStore.reconcile_eq_settle] at processed
  exact ⟨later, processed⟩

/-- Documents about other instances leave one as it is. -/
theorem processAll_keeps {ledger : Ledger} (sound : ledger.Sound) {name : String}
    {holding : Holding} (held : ledger.catalogue.holdings.get? name = some holding)
    {jobs : List Job} (apart : ∀ job ∈ jobs, job.IsApart name) (readings : Nat) :
    ∃ after later, after.Sound ∧ after.catalogue.holdings.get? name = some holding ∧
      processAll pipeline jobs ⟨⟨ledger, none⟩, .acceptAll, readings⟩ =
        ⟨⟨after, none⟩, .acceptAll, later⟩ := by
  obtain ⟨later, processed⟩ := store_processAll pipeline jobs ⟨ledger, none⟩ readings
  obtain ⟨after, jars, kept, settled, -, heldAfter, -, contains⟩ :=
    sound.find_reconcileAll held (jobs.filterMap message?)
  rw [inMemory, settled] at processed
  obtain rfl : jars = holding.jars := StringSet.ext_contains fun hash => by
    rw [Bool.eq_iff_iff, contains, or_iff_left (not_brings_of_isApart apart hash)]
  exact ⟨after, later, kept, heldAfter, processed⟩

end InMemory

/-! ## Documents that name an instance -/

/-- A document brings a new instance and names it. -/
structure Introduces (job : Job) (name : String) (document : Json) : Prop where
  isJson : Json.read? job.payload = some document
  named : document.nameAt? namePlace = some name
  classified : ∃ new, classify job.announcement job.payload = .ok (.newInstance new)

/-- A document without a `basic` section brings a message and names the instance to update. -/
structure Amends (job : Job) (name : String) (document : Json) : Prop where
  isJson : Json.read? job.payload = some document
  bare : ∀ value, document.at? [.key "basic"] = some value → value = .null
  named : document.nameAt? updateNamePlace = some name
  classified : ∃ message, classify job.announcement job.payload = .ok message

variable {job : Job} {name : String} {document : Json}

/-- A new instance is known by the name that its document gives, and has the jars listed there. -/
theorem Introduces.exists_new (introduces : job.Introduces name document) :
    ∃ new, job.message? = some (.newInstance new) ∧ new.linkingHash = name ∧
      new.machine.jars = JarList.ofItems (document.entriesAt directPlace) := by
  obtain ⟨isJson, named, new, classified⟩ := introduces
  obtain ⟨members, isObject, read⟩ := (Snapshot.classify_ok_iff _ _ _).mp classified
  obtain rfl := Option.some.inj (isJson.symm.trans isObject)
  refine ⟨new, toOption_eq_some_iff.mpr classified, ?_, ?_⟩
  · rw [Snapshot.linkingHash_of_messageOf read, named, Option.getD_some]
  · exact (Snapshot.hasJarsOf_of_messageOf read).direct

/-- An update is about the name that its document gives, and has the jars listed there. -/
theorem Amends.exists_delta (amends : job.Amends name document) :
    ∃ delta, job.message? = some (.update delta) ∧ delta.linkingHash = name ∧
      delta.jars = JarList.ofItems (document.entriesAt updateJarsPlace) := by
  obtain ⟨isJson, bare, named, message, classified⟩ := amends
  obtain ⟨members, isObject, read⟩ := (Snapshot.classify_ok_iff _ _ _).mp classified
  obtain rfl := Option.some.inj (isJson.symm.trans isObject)
  have absent : Json.present? members "basic" = none := by
    refine Option.filter_eq_none_iff.mpr fun value found => ?_
    obtain rfl := bare value (by rw [Json.at?, found]; rfl)
    decide
  obtain ⟨delta, rfl⟩ := Snapshot.exists_delta_of_bare absent read
  obtain ⟨given, jars⟩ := Snapshot.delta_of_messageOf read
  exact ⟨delta, toOption_eq_some_iff.mpr classified,
    Option.some.inj (given.symm.trans named), jars⟩

/-- A store in memory, whatever it went through, that holds no instance under a name.  After a
document that brings a new instance under the name, and others about other names, a document that
amends the name adds its jars to that instance; nothing else about it changes, and no other
instance.  Without the first document it fails and changes nothing. -/
theorem Amends.finds_introduced {update : Job} {name : String} {changes : Json}
    (amends : update.Amends name changes) (settings : Settings) (objects : ObjectStore)
    (clock : Nat → Int) (calls : List StoreCall) (readings : Nat)
    (lacks : (store.find name (Usage.run {} calls).memory).1 = .ok none) :
    let pipeline := Pipeline.ofSettings settings objects clock store
    let start : Workspace MemoryStore := ⟨(Usage.run {} calls).memory, .acceptAll, readings⟩
    (∀ (first : Job) (document : Json) (between : List Job),
      first.Introduces name document → (∀ job ∈ between, job.IsApart name) →
      let arrived := first.process pipeline start
      let amid := processAll pipeline between arrived.2
      let merged := update.process pipeline amid
      ∃ stored added jars,
        arrived.1 = .ok (.applied (.inserted stored.id)) ∧
        (store.find name arrived.2.store).1 = .ok (some stored) ∧
        merged.1 = .ok (.applied (.merged stored.id added)) ∧
        (store.find name merged.2.store).1 = .ok (some { stored with jars }) ∧
        (∀ hash, jars.contains hash = true ↔
          ∃ entry ∈ document.entriesAt directPlace ++ changes.entriesAt updateJarsPlace,
            JarList.Carries entry hash) ∧
        ∀ other, other ≠ name →
          (store.find other merged.2.store).1 = (store.find other amid.store).1) ∧
    (update.process pipeline start).1 = .error (.integrity (.unknownLinkingHash name)) ∧
    (update.process pipeline start).2.store = ⟨start.store.committed, none⟩ := by
  obtain ⟨delta, brought, rfl, more⟩ := amends.exists_delta
  have sound := (Usage.intact_fresh.run calls).1.committed.sound
  have free := Ledger.free_of_find lacks
  generalize (Usage.run {} calls).memory = memory at sound free ⊢
  intro pipeline start
  have inMemory : pipeline.store = store := rfl
  refine ⟨fun first document between introduces apart => ?_, ?_⟩
  · obtain ⟨new, brings, same, listed⟩ := introduces.exists_new
    rw [← same] at free
    have held : (memory.committed.inserted new).catalogue.holdings.get? delta.linkingHash =
        some ⟨memory.committed.lastId + 1, new, new.machine.jars.hashes⟩ := by
      rw [Ledger.Sound.catalogue_inserted, SortedMap.get?_insert, if_pos same.symm]
    obtain ⟨reading, arrived⟩ := process_settles inMemory brings memory readings
    rw [Ledger.settle_of_free free] at arrived
    obtain ⟨after, reading, kept, heldAmid, amid⟩ :=
      processAll_keeps inMemory (sound.inserted free) held apart reading
    obtain ⟨⟨added, answered⟩, found, beside⟩ := kept.settle_update heldAmid
    obtain ⟨_, merged⟩ := process_settles inMemory brought ⟨after, none⟩ reading
    dsimp only
    rw [arrived, amid, merged, answered]
    refine ⟨Ledger.view (memory.committed.lastId + 1) ⟨new, new.machine.jars.hashes⟩, added, _, rfl,
      same ▸ sound.find_inserted free, rfl, found, fun hash => ?_, beside⟩
    rw [SortedMap.contains_union, Bool.or_eq_true, JarSet.contains_hashes, JarSet.contains_hashes,
      listed, more, JarList.contains_ofItems, JarList.contains_ofItems]
    simp only [List.mem_append, or_and_right, exists_or]
  · obtain ⟨_, alone⟩ := process_settles inMemory brought memory readings
    rw [alone, Ledger.settle_update_of_free free]
    exact ⟨rfl, rfl⟩

/-- A document that is announced without saying who reported it. -/
def announcedPlainly (payload : String) : Job :=
  ⟨⟨none, "o", "", none, default, none, false⟩, payload, .singleBlob⟩

/-- A machine whose name is a number. -/
def numberedMachine : Job :=
  announcedPlainly ("\x7b\"basic\":\x7b\"system.hostname\":\"h\",\"jvm.report_time\":1\x7d," ++
    "\"idHash\":7,\"jars\":[\"a\",\"b\"]\x7d")

/-- An update that gives the number as a text. -/
def numberedUpdate : Job :=
  announcedPlainly "\x7b\"updated-jars\":\x7b\"idHash\":\"7\",\"jars\":[\"b\",\"c\"]\x7d\x7d"

/-- A document without a message, and an update of another machine. -/
def strangers : List Job :=
  [announcedPlainly "[]",
    announcedPlainly "\x7b\"updated-jars\":\x7b\"idHash\":\"x\",\"jars\":[\"d\"]\x7d\x7d"]

theorem introduces_numberedMachine : ∃ document, numberedMachine.Introduces "7" document ∧
    (JarList.ofItems (document.entriesAt directPlace)).keys = ["a", "b"] := by
  obtain ⟨document, isDocument, seen⟩ : ∃ document,
      Json.read? numberedMachine.payload = some document ∧
        (document.nameAt? namePlace, (JarList.ofItems (document.entriesAt directPlace)).keys) =
          (some "7", ["a", "b"]) := Option.map_eq_some_iff.mp (by decide +kernel)
  obtain ⟨named, listed⟩ := Prod.mk.inj seen
  have isNew : (numberedMachine.message?.bind Message.new?).isSome = true := by
    decide +kernel
  obtain ⟨new, brought⟩ := Option.isSome_iff_exists.mp isNew
  exact ⟨document, ⟨isDocument, named, new, Snapshot.classify_of_new? brought⟩, listed⟩

theorem amends_numberedUpdate : ∃ changes, numberedUpdate.Amends "7" changes ∧
    (JarList.ofItems (changes.entriesAt updateJarsPlace)).keys = ["b", "c"] := by
  obtain ⟨changes, isChanges, seen⟩ : ∃ changes,
      Json.read? numberedUpdate.payload = some changes ∧
        ((changes.at? [.key "basic"]).isNone, changes.nameAt? updateNamePlace,
          (JarList.ofItems (changes.entriesAt updateJarsPlace)).keys) =
            (true, some "7", ["b", "c"]) := Option.map_eq_some_iff.mp (by decide +kernel)
  simp only [Prod.mk.injEq, Option.isNone_iff_eq_none] at seen
  obtain ⟨bare, named, listed⟩ := seen
  have holds : numberedUpdate.message?.isSome = true := by decide +kernel
  obtain ⟨message, held⟩ := Option.isSome_iff_exists.mp holds
  exact ⟨changes, ⟨isChanges, by simp [bare], named, message, toOption_eq_some_iff.mp held⟩, listed⟩

theorem isApart_strangers : ∀ job ∈ strangers, job.IsApart "7" := by
  have named : ∀ job ∈ strangers, job.message?.map Message.linkingHash ≠ some "7" := by
    decide +kernel
  intro job among message holds about
  exact named job among (by rw [holds, Option.map_some, about])

theorem numberedUpdate_finds :
    let pipeline := Pipeline.ofSettings {} ⟨fun _ => .error .crashed, fun _ => .error .crashed⟩
      (fun _ => 0) store
    let start : Workspace MemoryStore := { store := {}, filter := .acceptAll }
    let arrived := numberedMachine.process pipeline start
    let merged := numberedUpdate.process pipeline (processAll pipeline strangers arrived.2)
    (∃ (stored : StoredInstance) (added : Nat) (jars : StringSet),
      arrived.1 = .ok (.applied (.inserted stored.id)) ∧
      merged.1 = .ok (.applied (.merged stored.id added)) ∧
      (store.find "7" merged.2.store).1 = .ok (some { stored with jars }) ∧
      ∀ hash, jars.contains hash = true ↔ hash ∈ ["a", "b", "c"]) ∧
    (numberedUpdate.process pipeline start).1 =
      .error (.integrity (.unknownLinkingHash "7")) := by
  intro pipeline start arrived merged
  obtain ⟨document, introduces, listed⟩ := introduces_numberedMachine
  obtain ⟨changes, amends, more⟩ := amends_numberedUpdate
  obtain ⟨finds, refused, -⟩ := amends.finds_introduced {}
    ⟨fun _ => .error .crashed, fun _ => .error .crashed⟩ (fun _ => 0) [] 0 rfl
  obtain ⟨stored, added, jars, inserted, -, merges, found, contains, -⟩ :=
    finds numberedMachine document strangers introduces isApart_strangers
  refine ⟨⟨stored, added, jars, inserted, merges, found, fun hash => ?_⟩, refused⟩
  rw [contains]
  simp only [List.mem_append, or_and_right, exists_or, ← JarList.contains_ofItems,
    ← SortedMap.mem_keys, listed, more]
  grind

end Job

end JarLedger
