import JarLedger.Proofs.Store.Catalogue

/-!
# The arrival of a new instance

A new instance that a store in memory does not hold yet is taken in as it is: it can be read back,
and the counts grow by what it brings (`MemoryStore.reconcile_takesIn`).
-/

namespace JarLedger
namespace Ledger

variable {ledger : Ledger} {new : Instance}

theorem foldl_addCounts (entries : List (InstanceId × LedgerEntry)) (counts extra : StoreCounts) :
    entries.foldl (fun counts entry => addCounts counts (countsOf entry.2))
        (addCounts counts extra) =
      addCounts (entries.foldl (fun counts entry => addCounts counts (countsOf entry.2)) counts)
        extra := by
  induction entries generalizing counts with
  | nil => rfl
  | cons entry rest ih =>
      have swap : addCounts (addCounts counts extra) (countsOf entry.2) =
          addCounts (addCounts counts (countsOf entry.2)) extra := by
        simp only [addCounts, Int.add_right_comm]
      rw [List.foldl_cons, List.foldl_cons, swap, ih]

/-- Jars that are noted count as far as they were never seen. -/
theorem size_noted (ledger : Ledger) (jars : JarSet) :
    ({ jarHashes := (ledger.jars.union jars).size } : StoreCounts) =
      addCounts { jarHashes := ledger.jars.size }
        { jarHashes := (newHashes ledger.jars.hashes jars).length } := by
  simp only [SortedMap.size_union, newHashes, JarSet.contains_hashes, addCounts, Int.add_zero,
    Int.natCast_add]

/-- A new instance adds its own rows and the jars that were never seen. -/
theorem counts_inserted (ledger : Ledger) (new : Instance) :
    (ledger.inserted new).counts =
      addCounts
        (addCounts ledger.counts
          { jarHashes := (newHashes ledger.jars.hashes new.allJars).length })
        (countsOf ⟨new, new.machine.jars.hashes⟩) := by
  rw [counts, inserted, size_noted, List.foldl_append, foldl_addCounts]
  rfl

/-- What the jars of an instance count for, by the place where they are. -/
theorem countsOf_jars (new : Instance) (jars : StringSet) :
    (countsOf ⟨new, jars⟩).instanceJarHashes = jars.size ∧
      (countsOf ⟨new, jars⟩).moduleJarHashes = new.moduleJars.size ∧
      (countsOf ⟨new, jars⟩).deploymentJarHashes =
        new.deployments.foldr (fun deployment (total : Int) => deployment.jars.size + total) 0 ∧
      (countsOf ⟨new, jars⟩).jarHashes = 0 := by
  cases new with
  | jvm machine => exact ⟨rfl, rfl, rfl, rfl⟩
  | appServer server =>
      cases found : server.configuration <;>
        simp [countsOf, found, Instance.moduleJars, Instance.deployments, AppServer.deployments]

theorem free_of_find {linkingHash : String} (lacks : ledger.find linkingHash = .ok none) :
    ledger.byLinkingHash.get? linkingHash = none := by
  rw [find] at lacks
  cases index : ledger.byLinkingHash.get? linkingHash with
  | none => rfl
  | some id =>
      simp only [index] at lacks
      cases found : ledger.entry? id <;> simp [found] at lacks

theorem settle_of_free (free : ledger.byLinkingHash.get? new.linkingHash = none) :
    ledger.settle (.newInstance new) =
      (.ok (.inserted (ledger.lastId + 1)), ledger.inserted new) := by
  simp only [settle, insert_of_free free]

/-- A new instance is read back as it came. -/
theorem Sound.find_inserted (sound : ledger.Sound)
    (free : ledger.byLinkingHash.get? new.linkingHash = none) :
    (ledger.inserted new).find new.linkingHash =
      .ok (some (view (ledger.lastId + 1) ⟨new, new.machine.jars.hashes⟩)) := by
  rw [(sound.inserted free).find_catalogue, catalogue_inserted]
  simp [SortedMap.get?_insert]

end Ledger

namespace MemoryStore

/-- A store has taken a new instance in. -/
structure TakesIn (new : Instance) (before after : MemoryStore) : Prop where
  /-- The instance can be read back, with its own jars and those of its modules as they came. -/
  found : ∃ stored, (store.find new.linkingHash after).1 = .ok (some stored) ∧
    stored.jars = new.machine.jars.hashes ∧ stored.moduleJars = new.moduleJars.hashes
  /-- Every place of a jar is counted, and every jar that was never seen. -/
  counted : ∃ earlier later, (store.counts before).1 = .ok earlier ∧
    (store.counts after).1 = .ok later ∧
    later.instanceJarHashes = earlier.instanceJarHashes + new.machine.jars.size ∧
    later.moduleJarHashes = earlier.moduleJarHashes + new.moduleJars.size ∧
    later.deploymentJarHashes = earlier.deploymentJarHashes +
      new.deployments.foldr (fun deployment (total : Int) => deployment.jars.size + total) 0 ∧
    later.jarHashes = earlier.jarHashes +
      (new.allJars.keys.filter fun hash => !before.committed.jars.contains hash).length
  /-- The jars of the instance are among the jars ever seen. -/
  noted : ∀ hash, after.committed.jars.contains hash =
    (before.committed.jars.contains hash || new.allJars.contains hash)

theorem takesIn_inserted {ledger : Ledger} (sound : ledger.Sound) {new : Instance}
    (free : ledger.byLinkingHash.get? new.linkingHash = none) (open? : Option Ledger) :
    TakesIn new ⟨ledger, open?⟩ ⟨ledger.inserted new, none⟩ where
  found := ⟨_, sound.find_inserted free, rfl, rfl⟩
  counted := by
    obtain ⟨direct, modules, deployed, noted⟩ :=
      Ledger.countsOf_jars new new.machine.jars.hashes
    have size : new.machine.jars.hashes.size = new.machine.jars.size :=
      SortedMap.size_eq_of_contains new.machine.jars.contains_hashes
    refine ⟨_, _, rfl, rfl, ?_⟩
    simp only [Ledger.counts_inserted, Ledger.addCounts, direct, modules, deployed, noted, size,
      Int.add_zero, Ledger.newHashes, JarSet.contains_hashes, and_self]
  noted hash := SortedMap.contains_union _ _ hash

/-- A store that lacks a new instance takes it in. -/
theorem reconcile_takesIn {memory : MemoryStore} (sound : memory.committed.Sound) {new : Instance}
    (lacks : (store.find new.linkingHash memory).1 = .ok none) :
    (∃ id, (reconcile store (.newInstance new) memory).1 = .ok (.inserted id)) ∧
      TakesIn new memory (reconcile store (.newInstance new) memory).2 := by
  have free := Ledger.free_of_find lacks
  rw [reconcile_eq_settle, Ledger.settle_of_free free]
  exact ⟨⟨_, rfl⟩, takesIn_inserted sound free memory.staged⟩

end MemoryStore
end JarLedger
