import JarLedger.Proofs.Store.Errand
import JarLedger.Proofs.Store.Soundness

/-!
# The catalogue behind a ledger

A catalogue forgets how a ledger is kept: it holds at most one instance under a linking hash, and no
index.  A sound ledger answers every errand as its catalogue does (`Ledger.Sound.serve_catalogue`),
so whatever is asked of a store in memory can be foretold from catalogues alone.
-/

namespace JarLedger

/-- An instance in a catalogue. -/
structure Holding where
  id : InstanceId
  /-- The instance as it was inserted. -/
  described : Instance
  /-- Hashes of the jars on the machine itself. -/
  jars : StringSet

/-- Instances by linking hash, and the jars ever seen. -/
structure Catalogue where
  /-- The number given last. -/
  lastId : InstanceId := 0
  holdings : SortedMap Holding := SortedMap.empty
  jars : JarSet := JarSet.empty

namespace Catalogue

/-- What an instance counts for. -/
def countsOf (holding : Holding) : StoreCounts :=
  Ledger.countsOf ⟨holding.described, holding.jars⟩

/-- Count the rows. -/
def counts (catalogue : Catalogue) : StoreCounts :=
  catalogue.holdings.entries.foldl
    (fun counts entry => Ledger.addCounts counts (countsOf entry.2))
    { jarHashes := catalogue.jars.size }

instance : RightCommutative fun counts (entry : String × Holding) =>
    Ledger.addCounts counts (countsOf entry.2) where
  right_comm counts left right := by
    simp only [Ledger.addCounts, Int.add_right_comm]

/-- Settle a message. -/
def settle (catalogue : Catalogue) : Message → Except IngestError Reconciled × Catalogue
  | .newInstance new =>
      match catalogue.holdings.get? new.linkingHash with
      | some _ => (.error (.persistence (.uniqueViolation new.linkingHash)), catalogue)
      | none =>
          let id := catalogue.lastId + 1
          (.ok (.inserted id),
            { lastId := id
              holdings :=
                catalogue.holdings.insert new.linkingHash ⟨id, new, new.machine.jars.hashes⟩
              jars := catalogue.jars.union new.allJars })
  | .update delta =>
      match catalogue.holdings.get? delta.linkingHash with
      | none => (.error (.integrity (.unknownLinkingHash delta.linkingHash)), catalogue)
      | some holding =>
          (.ok (.merged holding.id
              (delta.jars.keys.filter fun hash => !holding.jars.contains hash).length),
            { catalogue with
              holdings := catalogue.holdings.insert delta.linkingHash
                { holding with jars := holding.jars.union delta.jars.hashes }
              jars := catalogue.jars.union delta.jars })

/-- The answer to an errand, and the catalogue afterwards. -/
def serve (catalogue : Catalogue) : Errand → Answer × Catalogue
  | .reconcile message =>
      (.reconciled (catalogue.settle message).1, (catalogue.settle message).2)
  | .find linkingHash =>
      (.found (.ok ((catalogue.holdings.get? linkingHash).map fun holding =>
        Ledger.view holding.id ⟨holding.described, holding.jars⟩)), catalogue)
  | .delete linkingHash =>
      (.deleted (.ok (catalogue.holdings.contains linkingHash)),
        { catalogue with holdings := catalogue.holdings.erase linkingHash })
  | .counts => (.counted (.ok catalogue.counts), catalogue)

/-- The answers to errands one after the other, and the catalogue afterwards. -/
def serveAll : List Errand → Catalogue → List Answer × Catalogue
  | [], catalogue => ([], catalogue)
  | errand :: errands, catalogue =>
      let served := catalogue.serve errand
      let later := serveAll errands served.2
      (served.1 :: later.1, later.2)

end Catalogue

namespace Ledger

/-- Under the name of a deployment stand the jars of the last one with that name. -/
theorem get?_deploymentJars {id : InstanceId} {entry : LedgerEntry} (name : String)
    (hashes : StringSet) :
    (view id entry).deploymentJars.get? name = some hashes ↔
      ∃ earlier last later, entry.inserted.deployments = earlier ++ last :: later ∧
        (last.name, last.jars.hashes) = (name, hashes) ∧ ∀ other ∈ later, other.name ≠ name :=
  SortedMap.get?_ofListLast_map_eq_some_iff _ _ name hashes

/-- An entry under its linking hash. -/
def holdingOf (entry : InstanceId × LedgerEntry) : String × Holding :=
  (entry.2.inserted.linkingHash, ⟨entry.1, entry.2.inserted, entry.2.jars⟩)

/-- The catalogue that a ledger keeps. -/
def catalogue (ledger : Ledger) : Catalogue where
  lastId := ledger.lastId
  holdings := SortedMap.ofListLast (ledger.entries.map holdingOf)
  jars := ledger.jars

namespace Sound

variable {ledger : Ledger}

private theorem nodup_linkingHashes (sound : ledger.Sound) :
    ((ledger.entries.map holdingOf).map Prod.fst).Nodup := by
  rw [List.map_map]
  refine List.Nodup.map_on ?_ (List.Nodup.of_map Prod.fst sound.distinct)
  exact fun first left second right same => sound.holder_unique left right same

/-- The catalogue holds exactly the instances of the ledger. -/
theorem get?_catalogue_eq_some_iff (sound : ledger.Sound) {linkingHash : String}
    {holding : Holding} :
    ledger.catalogue.holdings.get? linkingHash = some holding ↔
      (holding.id, (⟨holding.described, holding.jars⟩ : LedgerEntry)) ∈ ledger.entries ∧
        holding.described.linkingHash = linkingHash := by
  rw [catalogue, SortedMap.get?_ofListLast_eq_some_iff sound.nodup_linkingHashes, List.mem_map]
  constructor
  · rintro ⟨entry, member, equal⟩
    obtain ⟨rfl, rfl⟩ := Prod.mk.inj equal
    exact ⟨member, rfl⟩
  · rintro ⟨member, rfl⟩
    exact ⟨_, member, rfl⟩

/-- The index names the instance that the catalogue holds. -/
theorem byLinkingHash_eq (sound : ledger.Sound) (linkingHash : String) :
    ledger.byLinkingHash.get? linkingHash =
      (ledger.catalogue.holdings.get? linkingHash).map Holding.id := by
  apply Option.ext
  intro id
  rw [sound.indexed, Option.map_eq_some_iff]
  constructor
  · rintro ⟨entry, member, same⟩
    exact ⟨⟨id, entry.inserted, entry.jars⟩,
      sound.get?_catalogue_eq_some_iff.mpr ⟨member, same⟩, rfl⟩
  · rintro ⟨holding, found, rfl⟩
    exact ⟨_, sound.get?_catalogue_eq_some_iff.mp found⟩

theorem entry?_of_get?_catalogue (sound : ledger.Sound) {linkingHash : String} {holding : Holding}
    (found : ledger.catalogue.holdings.get? linkingHash = some holding) :
    ledger.entry? holding.id = some ⟨holding.described, holding.jars⟩ :=
  sound.entry?_eq_some_iff.mpr (sound.get?_catalogue_eq_some_iff.mp found).1

/-! ## Operations on a ledger and on its catalogue -/

theorem catalogue_inserted (ledger : Ledger) (new : Instance) :
    (ledger.inserted new).catalogue =
      { lastId := ledger.lastId + 1
        holdings := ledger.catalogue.holdings.insert new.linkingHash
          ⟨ledger.lastId + 1, new, new.machine.jars.hashes⟩
        jars := ledger.jars.union new.allJars } := by
  simp only [catalogue, Ledger.inserted, SortedMap.ofListLast, List.map_append, List.map_singleton,
    List.foldl_append, List.foldl_cons, List.foldl_nil]
  rfl

theorem catalogue_setJars (sound : ledger.Sound) {linkingHash : String} {holding : Holding}
    (found : ledger.catalogue.holdings.get? linkingHash = some holding) (jars : StringSet) :
    ({ ledger with entries := Ledger.setJars ledger.entries holding.id jars } : Ledger).catalogue =
      { ledger.catalogue with
        holdings := ledger.catalogue.holdings.insert linkingHash { holding with jars } } := by
  obtain ⟨member, held⟩ := sound.get?_catalogue_eq_some_iff.mp found
  have after := sound.setJars holding.id jars
  refine congrArg (Catalogue.mk ledger.lastId · ledger.jars) (SortedMap.ext_get? fun sought => ?_)
  rw [SortedMap.get?_insert]
  by_cases equal : sought = linkingHash
  · rw [if_pos equal]
    refine after.get?_catalogue_eq_some_iff.mpr ⟨?_, held.trans equal.symm⟩
    exact mem_setJars.mpr ⟨_, member, (if_pos rfl).symm⟩
  · rw [if_neg equal]
    -- Another linking hash belongs to an entry of another number, which keeps its jars.
    have apart {id : InstanceId} {entry : LedgerEntry} (inside : (id, entry) ∈ ledger.entries)
        (same : entry.inserted.linkingHash = sought) : id ≠ holding.id := by
      rintro rfl
      rw [sound.entry_unique inside member] at same
      exact equal (same.symm.trans held)
    apply Option.ext
    intro other
    refine after.get?_catalogue_eq_some_iff.trans (Iff.trans ?_
      sound.get?_catalogue_eq_some_iff.symm)
    constructor
    · rintro ⟨inside, same⟩
      obtain ⟨before, earlier, changed⟩ := mem_setJars.mp inside
      obtain ⟨kept, alike, described⟩ := inserted_of_mem_setJars inside
      rw [sound.entry_unique alike earlier] at described
      rw [if_neg (apart earlier (described ▸ same))] at changed
      exact ⟨changed ▸ earlier, same⟩
    · rintro ⟨inside, same⟩
      exact ⟨mem_setJars.mpr ⟨_, inside, (if_neg (apart inside same)).symm⟩, same⟩

theorem settle_catalogue (sound : ledger.Sound) (message : Message) :
    ledger.catalogue.settle message =
      ((ledger.settle message).1, (ledger.settle message).2.catalogue) := by
  cases message with
  | newInstance new =>
      have index := sound.byLinkingHash_eq new.linkingHash
      cases held : ledger.catalogue.holdings.get? new.linkingHash with
      | some holding =>
          rw [held] at index
          simp [Catalogue.settle, held, Ledger.settle, insert_of_taken index]
      | none =>
          rw [held] at index
          simp only [Catalogue.settle, held, Ledger.settle, insert_of_free index,
            catalogue_inserted]
          rfl
  | update delta =>
      cases held : ledger.catalogue.holdings.get? delta.linkingHash with
      | none =>
          have index : ledger.byLinkingHash.get? delta.linkingHash = none := by
            rw [sound.byLinkingHash_eq, held]
            rfl
          simp only [Catalogue.settle, held, Ledger.settle, lookup_of_free index]
      | some holding =>
          have entry := sound.entry?_of_get?_catalogue held
          have index : ledger.byLinkingHash.get? delta.linkingHash = some holding.id := by
            rw [sound.byLinkingHash_eq, held]
            rfl
          simp only [Catalogue.settle, held, Ledger.settle, lookup_of_entry index entry,
            add_of_entry entry]
          exact congrArg (Prod.mk _) ((sound.remember delta.jars).catalogue_setJars held _).symm

/-- Forgetting an instance leaves the others in the catalogue. -/
theorem catalogue_forgotten (sound : ledger.Sound) {linkingHash : String} {holding : Holding}
    (held : ledger.catalogue.holdings.get? linkingHash = some holding) :
    (ledger.forgotten linkingHash holding.id).catalogue =
      { ledger.catalogue with holdings := ledger.catalogue.holdings.erase linkingHash } := by
  obtain ⟨member, same⟩ := sound.get?_catalogue_eq_some_iff.mp held
  have index : ledger.byLinkingHash.get? linkingHash = some holding.id := by
    rw [sound.byLinkingHash_eq, held]
    rfl
  have after := sound.forgotten index
  refine congrArg (Catalogue.mk ledger.lastId · ledger.jars) (SortedMap.ext_get? fun sought => ?_)
  rw [SortedMap.get?_erase]
  apply Option.ext
  intro other
  refine after.get?_catalogue_eq_some_iff.trans ?_
  rw [mem_forgotten]
  by_cases equal : sought = linkingHash
  · rw [if_pos equal]
    refine ⟨?_, nofun⟩
    rintro ⟨⟨inside, different⟩, sameOther⟩
    have unique := sound.holder_unique inside member (sameOther.trans (equal.trans same.symm))
    exact absurd (congrArg Prod.fst unique) different
  · rw [if_neg equal]
    refine Iff.trans ?_ sound.get?_catalogue_eq_some_iff.symm
    refine ⟨fun ⟨⟨inside, _⟩, sameOther⟩ => ⟨inside, sameOther⟩, ?_⟩
    rintro ⟨inside, sameOther⟩
    refine ⟨⟨inside, fun (number : other.id = holding.id) => ?_⟩, sameOther⟩
    rw [number] at inside
    have described := congrArg LedgerEntry.inserted (sound.entry_unique inside member)
    exact equal (sameOther.symm.trans ((congrArg Instance.linkingHash described).trans same))

theorem delete_catalogue (sound : ledger.Sound) (linkingHash : String) :
    ((ledger.delete linkingHash).1, (ledger.delete linkingHash).2.catalogue) =
      (ledger.catalogue.holdings.contains linkingHash,
        { ledger.catalogue with
          holdings := ledger.catalogue.holdings.erase linkingHash }) := by
  have index := sound.byLinkingHash_eq linkingHash
  cases held : ledger.catalogue.holdings.get? linkingHash with
  | none =>
      rw [held] at index
      rw [delete_of_free index, SortedMap.erase_of_absent held,
        (SortedMap.contains_eq_false_iff _ _).mpr held]
  | some holding =>
      rw [held] at index
      rw [delete_of_entry index (sound.entry?_of_get?_catalogue held),
        (SortedMap.contains_iff _ _).mpr ⟨holding, held⟩]
      exact congrArg (Prod.mk true) (sound.catalogue_forgotten held)

theorem find_catalogue (sound : ledger.Sound) (linkingHash : String) :
    ledger.find linkingHash =
      .ok ((ledger.catalogue.holdings.get? linkingHash).map fun holding =>
        view holding.id ⟨holding.described, holding.jars⟩) := by
  rw [Ledger.find, sound.byLinkingHash_eq]
  cases held : ledger.catalogue.holdings.get? linkingHash with
  | none => rfl
  | some holding =>
      simp only [Option.map_some, sound.entry?_of_get?_catalogue held]

/-- The ledger's entries are the catalogue's holdings in another order. -/
theorem perm_holdings (sound : ledger.Sound) :
    (ledger.entries.map holdingOf).Perm ledger.catalogue.holdings.entries := by
  refine (List.perm_ext_iff_of_nodup (List.Nodup.of_map Prod.fst sound.nodup_linkingHashes)
    (SortedMap.nodup_entries _)).mpr fun entry => ?_
  rw [← SortedMap.get?_eq_some_iff, catalogue,
    SortedMap.get?_ofListLast_eq_some_iff sound.nodup_linkingHashes]

theorem counts_catalogue (sound : ledger.Sound) : ledger.counts = ledger.catalogue.counts := by
  rw [Ledger.counts, Catalogue.counts, ← sound.perm_holdings.foldl_eq, List.foldl_map]
  rfl

/-- A sound ledger answers as its catalogue does, and keeps it up to date. -/
theorem serve_catalogue (sound : ledger.Sound) (errand : Errand) :
    ledger.catalogue.serve errand =
      ((ledger.serve errand).1, (ledger.serve errand).2.catalogue) := by
  cases errand with
  | reconcile message => simp only [Catalogue.serve, Ledger.serve, sound.settle_catalogue]
  | find linkingHash => simp only [Catalogue.serve, Ledger.serve, sound.find_catalogue]
  | delete linkingHash =>
      have agree := Prod.mk.inj (sound.delete_catalogue linkingHash)
      simp only [Catalogue.serve, Ledger.serve, agree]
  | counts => simp only [Catalogue.serve, Ledger.serve, sound.counts_catalogue]

theorem serve (sound : ledger.Sound) (errand : Errand) : (ledger.serve errand).2.Sound := by
  cases errand with
  | reconcile message => exact sound.settle message
  | find linkingHash => exact sound
  | delete linkingHash => exact sound.delete linkingHash
  | counts => exact sound

end Sound

/-- Errands served one after the other at a store in memory get the answers of the catalogue. -/
theorem Sound.serveAll_eq {ledger : Ledger} (sound : ledger.Sound) (errands : List Errand) :
    ∃ after : Ledger, after.Sound ∧
      Errand.serveAll MemoryStore.store errands ⟨ledger, none⟩ =
        ((Catalogue.serveAll errands ledger.catalogue).1, ⟨after, none⟩) ∧
      after.catalogue = (Catalogue.serveAll errands ledger.catalogue).2 := by
  induction errands generalizing ledger with
  | nil => exact ⟨ledger, sound, rfl, rfl⟩
  | cons errand errands ih =>
      obtain ⟨after, kept, answers, agree⟩ := ih (sound.serve errand)
      refine ⟨after, kept, ?_, ?_⟩
      · simp only [Errand.serveAll, MemoryStore.serve_eq, answers, Catalogue.serveAll,
          sound.serve_catalogue]
      · simp only [Catalogue.serveAll, sound.serve_catalogue, agree]

end Ledger
end JarLedger
