import JarLedger.Proofs.Jars
import JarLedger.Proofs.Snapshot.Acceptance
import JarLedger.Proofs.Snapshot.Entries
import JarLedger.Proofs.Store.Arrival
import JarLedger.Proofs.Store.Usage

/-!
# Jars in their places

A document lists jars of the machine itself, of the modules and of every deployment, at different
depths.  What is classified has the jars of every list at the list's place, all of them together are
those of the lists one after the other, and a store that takes the instance in keeps the places
apart and counts every jar once for every place (`Snapshot.classify_keeps_jars`).
-/

namespace JarLedger

/-- The new instance that a message brings, if it brings one. -/
def Message.new? : Message → Option Instance
  | .newInstance new => some new
  | .update _ => none

namespace Json

/-- The items of an array at a place; none where no array stands. -/
def itemsAt (path : Path) (value : Json) : List Json := ((at? path value).bind items?).getD []

/-- The entries of a jar list at a place, in either spelling. -/
def entriesAt (path : Path) (value : Json) : List Json :=
  itemsAt path value ++ itemsAt (path ++ [.key "jars"]) value

theorem itemsAt_of_present {members : List (String × Json)} {name : String} {value : Json}
    (present : present? members name = some value) (rest : Path) :
    itemsAt (.key name :: rest) (.object members) = itemsAt rest value := by
  have found := (Option.filter_eq_some_iff.mp present).1
  rw [itemsAt, at?, found]
  rfl

theorem itemsAt_of_absent {members : List (String × Json)} {name : String}
    (absent : present? members name = none) (rest : Path) :
    itemsAt (.key name :: rest) (.object members) = [] := by
  rw [itemsAt, at?]
  cases found : members.lookup name with
  | none => rfl
  | some value =>
      cases value with
      | null => rcases rest with _ | ⟨_ | _, _⟩ <;> rfl
      | _ => simp [present?, found, Json.isNull] at absent

theorem itemsAt_of_item {items : List Json} {position : Nat} {item : Json}
    (found : items[position]? = some item) (rest : Path) :
    itemsAt (.index position :: rest) (.array items) = itemsAt rest item := by
  rw [itemsAt, at?, found]
  rfl

theorem itemsAt_object (members : List (String × Json)) : itemsAt [] (.object members) = [] := rfl

theorem at?_append (first rest : Path) (value : Json) :
    at? (first ++ rest) value = (at? first value).bind (at? rest) := by
  induction first generalizing value with
  | nil => simp [at?]
  | cons step later ih =>
      cases step with
      | key name =>
          cases value with
          | object members => simp [at?, Option.bind_assoc, ih]
          | _ => rfl
      | index position =>
          cases value with
          | array items => simp [at?, Option.bind_assoc, ih]
          | _ => rfl

/-- What is found inside an item of an array at a place is found in the item. -/
theorem entriesAt_append_index {place : Path} {value item : Json} {position : Nat}
    (found : (itemsAt place value)[position]? = some item) (rest : Path) :
    entriesAt (place ++ .index position :: rest) value = entriesAt rest item := by
  have items (inside : Path) :
      itemsAt (place ++ .index position :: inside) value = itemsAt inside item := by
    rw [itemsAt] at found
    cases there : at? place value with
    | none => simp [there] at found
    | some value =>
        cases value with
        | array items =>
            rw [itemsAt, at?_append, there]
            exact itemsAt_of_item (by simpa [there, items?] using found) inside
        | _ => simp [there, items?] at found
  rw [entriesAt, entriesAt, items, List.append_assoc, List.cons_append, items]

theorem entriesAt_of_present {members : List (String × Json)} {name : String} {value : Json}
    (present : present? members name = some value) (rest : Path) :
    entriesAt (.key name :: rest) (.object members) = entriesAt rest value := by
  rw [entriesAt, List.cons_append, itemsAt_of_present present, itemsAt_of_present present,
    entriesAt]

theorem entriesAt_of_absent {members : List (String × Json)} {name : String}
    (absent : present? members name = none) (rest : Path) :
    entriesAt (.key name :: rest) (.object members) = [] := by
  rw [entriesAt, List.cons_append, itemsAt_of_absent absent, itemsAt_of_absent absent,
    List.append_nil]

end Json

open Grammar

/-- The entries that are read are those at the place, in either spelling. -/
theorem JarList.items_eq {path : Path} {value : Json} {entries : List Json}
    (read : items path (some value) = .ok entries) : entries = value.entriesAt [] := by
  cases value with
  | null => exact (Except.ok.inj read).symm
  | array listed => exact (Except.ok.inj read).symm.trans (List.append_nil listed).symm
  | object members =>
      rw [Json.entriesAt, Json.itemsAt_object, List.nil_append, List.nil_append, Json.itemsAt,
        Json.at?]
      rw [items] at read
      cases found : members.lookup "jars" with
      | none =>
          rw [found] at read
          exact (Except.ok.inj read).symm
      | some inner =>
          rw [found] at read
          cases inner with
          | null => exact (Except.ok.inj read).symm
          | array listed => exact (Except.ok.inj read).symm
          | _ => simp at read
  | _ => simp [items] at read

/-- The jars that are read from a member are those of the list at its place. -/
theorem Section.jars_eq {part : Section} {name : String} {jars : JarSet}
    (read : part.jars name = .ok jars) :
    jars = JarList.ofItems (Json.entriesAt [.key name] (.object part.members)) := by
  obtain ⟨entries, listed, same⟩ := map_eq_ok_iff.mp read
  rw [← same]
  cases present : Json.present? part.members name with
  | none =>
      rw [get?, present] at listed
      rw [Json.entriesAt_of_absent present, ← Except.ok.inj listed]
  | some value =>
      rw [get?, present] at listed
      rw [Json.entriesAt_of_present present, JarList.items_eq listed]

namespace Snapshot

variable {root part : Section}

theorem jars_of_machine {announcement : Announcement} {basic : Members} {found : Jvm}
    (read : machine announcement root basic = .ok found) : root.jars "jars" = .ok found.jars := by
  simp only [machine, bind_eq_ok_iff] at read
  obtain ⟨_, -, _, -, _, -, _, -, _, -, _, -, _, -, _, -, _, -, _, -, _, -, _, -, jars, inside,
    same⟩ := read
  cases same
  exact inside

theorem jars_of_deployment {path : Path} {item : Json} {found : Deployment}
    (read : deployment path item = .ok found) :
    found.jars = JarList.ofItems (item.entriesAt [.key "archives"]) := by
  simp only [deployment, bind_eq_ok_iff] at read
  obtain ⟨part, isObject, _, -, _, -, _, -, _, -, jars, inside, same⟩ := read
  cases same
  cases item with
  | object members =>
      cases isObject
      exact Section.jars_eq inside
  | _ => exact absurd isObject nofun

/-- Where each item is read into something of a kind, the items of an array are read into the list
of those. -/
theorem map_of_readItems {found kind : Type} {path : Path}
    {read : Path → Json → Except ClassificationError found} {convert : found → kind}
    {expected : Json → kind}
    (each : ∀ place item result, read place item = .ok result → convert result = expected item)
    {items : List Json} {results : List found}
    (all : Section.readItems path read items = .ok results) :
    results.map convert = items.map expected := by
  rw [Section.readItems] at all
  generalize 0 = start at all
  induction items generalizing start results with
  | nil =>
      cases all
      rfl
  | cons item rest ih =>
      simp only [List.zipIdx_cons, List.mapM_cons, bind_eq_ok_iff] at all
      obtain ⟨result, first, later, others, same⟩ := all
      cases same
      rw [List.map_cons, List.map_cons, each _ _ _ first, ih _ others]

/-- The jars of a deployment. -/
abbrev archiveJars (item : Json) : JarSet := JarList.ofItems (item.entriesAt [.key "archives"])

theorem jars_of_configuration {found : Configuration} (read : configuration part = .ok found) :
    found.deployments.map Deployment.jars =
      (Json.itemsAt [.key "deployments"] (.object part.members)).map archiveJars := by
  simp only [configuration, bind_eq_ok_iff] at read
  obtain ⟨items, listed, deployments, inside, _, -, _, -, _, -, _, -, same⟩ := read
  cases same
  have jars : deployments.map Deployment.jars = items.map archiveJars :=
    map_of_readItems (fun _ _ _ found => jars_of_deployment found) inside
  rcases (Section.optArray_ok_iff _ _ _).mp listed with ⟨absent, rfl⟩ | present
  · rw [Json.itemsAt_of_absent absent]
    exact jars
  · rw [Json.itemsAt_of_present present]
    exact jars

theorem jars_of_server {machine : Jvm} {eap : Members} {raw : String} {found : AppServer}
    (read : server root machine eap raw = .ok found) :
    found.jvm = machine ∧
      found.moduleJars = JarList.ofItems (Json.entriesAt [.key "eap-modules"] (.object eap)) ∧
      found.deployments.map Deployment.jars =
        (Json.itemsAt [.key "eap-configuration", .key "deployments"] (.object eap)).map
          archiveJars := by
  simp only [server, bind_eq_ok_iff] at read
  obtain ⟨found, configured, _, -, _, -, _, -, _, -, _, -, jars, inside, same⟩ := read
  cases same
  refine ⟨rfl, Section.jars_eq inside, ?_⟩
  obtain ⟨members, isObject, chosen⟩ := bind_eq_ok_iff.mp configured
  rw [Section.optObject_ok_iff] at isObject
  cases members with
  | none =>
      cases chosen
      rw [Json.itemsAt_of_absent isObject]
      rfl
  | some members =>
      rw [Json.itemsAt_of_present isObject]
      obtain ⟨configured, read, rfl⟩ := map_eq_ok_iff.mp chosen
      exact jars_of_configuration read

/-! ## Places of jars in a document -/

/-- Place of the jars of the machine itself. -/
def directPlace : Path := [.key "jars"]

/-- Place of the jars of the modules. -/
def modulesPlace : Path := [.key "eap", .key "eap-modules"]

/-- Place of the deployments. -/
def deploymentsPlace : Path := [.key "eap", .key "eap-configuration", .key "deployments"]

/-- Place of the jars of a deployment. -/
def archivesPlace (position : Nat) : Path := deploymentsPlace ++ [.index position, .key "archives"]

/-- The entries of all jar lists of a document: those of the machine, of the modules and of the
deployments in their order. -/
def allEntries (document : Json) : List Json :=
  document.entriesAt directPlace ++ document.entriesAt modulesPlace ++
    (List.range (document.itemsAt deploymentsPlace).length).flatMap fun position =>
      document.entriesAt (archivesPlace position)

/-- An instance has its jars where a document lists them. -/
structure HasJarsOf (new : Instance) (document : Json) : Prop where
  direct : new.machine.jars = JarList.ofItems (document.entriesAt directPlace)
  modules : new.moduleJars = JarList.ofItems (document.entriesAt modulesPlace)
  deployed : new.deployments.map Deployment.jars =
    (document.itemsAt deploymentsPlace).map archiveJars

theorem hasJarsOf_of_messageOf {announcement : Announcement} {raw : String} {members : Members}
    {new : Instance} (read : messageOf announcement raw members = .ok (.newInstance new)) :
    HasJarsOf new (.object members) := by
  cases reads_of_messageOf read with
  | machine isBasic noServer readMachine =>
      exact {
        direct := Section.jars_eq (jars_of_machine readMachine)
        modules := by rw [modulesPlace, Json.entriesAt_of_absent noServer]; rfl
        deployed := by rw [deploymentsPlace, Json.itemsAt_of_absent noServer]; rfl }
  | server isBasic isServer readMachine readServer =>
      obtain ⟨rfl, modules, deployed⟩ := jars_of_server readServer
      exact {
        direct := Section.jars_eq (jars_of_machine readMachine)
        modules := by rw [modulesPlace, Json.entriesAt_of_present isServer]; exact modules
        deployed := by rw [deploymentsPlace, Json.itemsAt_of_present isServer]; exact deployed }

namespace HasJarsOf

variable {new : Instance} {document : Json}

theorem deployment_jars (placed : HasJarsOf new document) {position : Nat}
    {deployment : Deployment} (there : new.deployments[position]? = some deployment) :
    deployment.jars = JarList.ofItems (document.entriesAt (archivesPlace position)) := by
  have jars := congrArg (fun jars => jars[position]?) placed.deployed
  simp only [List.getElem?_map, there, Option.map_some] at jars
  obtain ⟨item, found, same⟩ := Option.map_eq_some_iff.mp jars.symm
  rw [archivesPlace, Json.entriesAt_append_index found, ← same]

theorem foldl_union (items : List Json) (deployments : List Deployment)
    (same : deployments.map Deployment.jars = items.map archiveJars) (listed : List Json) :
    deployments.foldl (fun jars deployment => jars.union deployment.jars)
        (JarList.ofItems listed) =
      JarList.ofItems (listed ++ items.flatMap fun item => item.entriesAt [.key "archives"]) := by
  induction items generalizing deployments listed with
  | nil =>
      obtain rfl := List.map_eq_nil_iff.mp same
      simp
  | cons item rest ih =>
      obtain ⟨deployment, later, rfl, first, others⟩ := List.map_eq_cons_iff.mp same
      rw [List.foldl_cons, first, archiveJars, ← JarList.ofItems_append, ih later others,
        List.flatMap_cons, List.append_assoc]

theorem flatMap_archives (document : Json) :
    ((List.range (document.itemsAt deploymentsPlace).length).flatMap fun position =>
        document.entriesAt (archivesPlace position)) =
      (document.itemsAt deploymentsPlace).flatMap fun item => item.entriesAt [.key "archives"] := by
  rw [List.flatMap_def, List.flatMap_def]
  refine congrArg List.flatten (List.ext_getElem (by simp) fun position inRange inItems => ?_)
  rw [List.getElem_map, List.getElem_map, List.getElem_range]
  exact Json.entriesAt_append_index (List.getElem?_eq_getElem (by simpa using inItems)) _

/-- All jars of an instance are those of all lists of the document one after the other. -/
theorem allJars_eq (placed : HasJarsOf new document) :
    new.allJars = JarList.ofItems (allEntries document) := by
  have all : new.allJars = new.deployments.foldl
      (fun jars deployment => jars.union deployment.jars)
      (new.machine.jars.union new.moduleJars) := by
    cases new <;> rfl
  rw [all, placed.direct, placed.modules, ← JarList.ofItems_append,
    foldl_union _ _ placed.deployed, allEntries, flatMap_archives]

end HasJarsOf

/-- The jars of an instance are those that a document lists. -/
structure JarsKept (document : Json) (new : Instance) : Prop where
  direct : ∀ hash, new.machine.jars.contains hash = true ↔
    ∃ entry ∈ document.entriesAt directPlace, JarList.Carries entry hash
  modules : ∀ hash, new.moduleJars.contains hash = true ↔
    ∃ entry ∈ document.entriesAt modulesPlace, JarList.Carries entry hash
  inOrder : new.deployments.length = (document.itemsAt deploymentsPlace).length
  deployed : ∀ position deployment, new.deployments[position]? = some deployment →
    ∀ hash, deployment.jars.contains hash = true ↔
      ∃ entry ∈ document.entriesAt (archivesPlace position), JarList.Carries entry hash
  /-- Among all jars every hash is known once. -/
  once : new.allJars.keys.Nodup
  /-- All jars are those listed anywhere, as they are described first. -/
  all : ∀ hash label, new.allJars.get? hash = some label ↔
    JarList.IsFirstLabel (allEntries document) hash label

theorem HasJarsOf.jarsKept {new : Instance} {document : Json} (placed : HasJarsOf new document) :
    JarsKept document new where
  direct hash := by rw [placed.direct, JarList.contains_ofItems]
  modules hash := by rw [placed.modules, JarList.contains_ofItems]
  inOrder := by simpa using congrArg List.length placed.deployed
  deployed position deployment there hash := by
    rw [placed.deployment_jars there, JarList.contains_ofItems]
  once := new.allJars.nodup_keys
  all hash label := by rw [placed.allJars_eq, JarList.get?_ofItems_eq_some_iff]

/-- No jar is lost or put elsewhere: an instance has the jars that its document lists at the places
of the lists, and a store that lacks the instance takes it in with its jars in their places,
whatever was done with the store before. -/
theorem classify_keeps_jars (announcement : Announcement) (document : String) (new : Instance)
    (classified : classify announcement document = .ok (.newInstance new))
    (calls : List StoreCall)
    (lacks : (MemoryStore.store.find new.linkingHash (Usage.run {} calls).memory).1 = .ok none) :
    let memory := (Usage.run {} calls).memory
    let answered := reconcile MemoryStore.store (.newInstance new) memory
    (∃ value, Json.read? document = some value ∧ JarsKept value new) ∧
      (∃ id, answered.1 = .ok (.inserted id)) ∧ MemoryStore.TakesIn new memory answered.2 := by
  obtain ⟨members, isObject, read⟩ := (classify_ok_iff _ _ _).mp classified
  have sound := (Usage.intact_fresh.run calls).1.committed.sound
  exact ⟨⟨_, isObject, (hasJarsOf_of_messageOf read).jarsKept⟩,
    MemoryStore.reconcile_takesIn sound lacks⟩

theorem classify_of_new? {announcement : Announcement} {document : String} {new : Instance}
    (brought : (classify announcement document).toOption.bind Message.new? = some new) :
    classify announcement document = .ok (.newInstance new) := by
  obtain ⟨message, found, isNew⟩ := Option.bind_eq_some_iff.mp brought
  cases message with
  | newInstance other =>
      cases isNew
      exact toOption_eq_some_iff.mp found
  | update delta => exact absurd isNew nofun

/-- A server that has two of its three jars in two places. -/
def sharingServer : String :=
  "\x7b\"basic\":\x7b\"system.hostname\":\"h\",\"jvm.report_time\":1\x7d,\"idHash\":\"x\"," ++
    "\"jars\":[\"b\",\x7b\"attributes\":\x7b\"sha1Checksum\":\"a\"\x7d,\"name\":\"n\"\x7d]," ++
    "\"eap\":\x7b\"eap-modules\":\x7b\"jars\":[\"a\"]\x7d,\"eap-configuration\":\x7b" ++
    "\"deployments\":[\x7b\"name\":\"d\",\"archives\":[\"c\",\"b\"]\x7d]\x7d\x7d\x7d"

theorem keeps_jars_sharingServer :
    ∃ new, classify ⟨none, "o", "", none, default, none, false⟩ sharingServer =
        .ok (.newInstance new) ∧
      new.allJars.toList = [⟨"a", ⟨some "n", none⟩⟩, ⟨"b", {}⟩, ⟨"c", {}⟩] ∧
      (∃ value, Json.read? sharingServer = some value ∧ JarsKept value new) ∧
      (∃ id, (reconcile MemoryStore.store (.newInstance new) {}).1 = .ok (.inserted id)) ∧
      MemoryStore.TakesIn new {} (reconcile MemoryStore.store (.newInstance new) {}).2 := by
  have evaluated : ((classify ⟨none, "o", "", none, default, none, false⟩
      sharingServer).toOption.bind Message.new?).map (fun new => new.allJars.toList) =
        some [⟨"a", ⟨some "n", none⟩⟩, ⟨"b", {}⟩, ⟨"c", {}⟩] := by decide +kernel
  obtain ⟨new, brought, all⟩ := Option.map_eq_some_iff.mp evaluated
  obtain ⟨message, found, isNew⟩ := Option.bind_eq_some_iff.mp brought
  cases message with
  | newInstance other =>
      cases isNew
      have classified := toOption_eq_some_iff.mp found
      exact ⟨new, classified, all, classify_keeps_jars _ sharingServer new classified [] rfl⟩
  | update delta => exact absurd isNew nofun

end Snapshot
end JarLedger
