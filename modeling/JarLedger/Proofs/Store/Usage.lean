import JarLedger.Proofs.Jars
import JarLedger.Proofs.Store.Soundness

/-!
# The store in memory under any use

Whoever uses the store directly may open transactions, insert, look up, add jars to any number,
commit, roll back, walk away and remove instances in any order, and go on after a failure.  Whatever
is called, the ledger that everyone sees and the copy of the open transaction are sound, their
instances have all their jars among the jars ever seen, no number is given to two instances in what
was committed, and the jars ever seen stay as they are (`Usage.run_intact`).
-/

namespace JarLedger

/-- What may be asked of a store. -/
inductive StoreCall where
  | begin
  | insert (new : Instance)
  | lookup (linkingHash : String)
  | add (id : InstanceId) (jars : JarSet)
  | commit
  | rollback
  | abandon
  | find (linkingHash : String)
  | delete (linkingHash : String)
  | counts

/-- Whether a call has to wait while a transaction is open. -/
def StoreCall.waits : StoreCall → Bool
  | .begin => true
  | .find _ => true
  | .delete _ => true
  | .counts => true
  | _ => false

/-- A store in memory, and the numbers that it gave. -/
structure Usage where
  memory : MemoryStore := {}
  /-- The numbers given in the open transaction, with the instances that got them. -/
  pending : List (InstanceId × Instance) := []
  /-- The numbers given in transactions that were committed, with the instances that got them. -/
  given : List (InstanceId × Instance) := []

namespace Usage

open MemoryStore (store)

/-- Make a call that need not wait. -/
def make (usage : Usage) : StoreCall → Usage
  | .begin => { usage with memory := (store.begin usage.memory).2, pending := [] }
  | .insert new =>
      match store.insert new usage.memory with
      | (.ok id, memory) => { usage with memory, pending := usage.pending ++ [(id, new)] }
      | (.error _, memory) => { usage with memory }
  | .lookup linkingHash => { usage with memory := (store.lookup linkingHash usage.memory).2 }
  | .add id jars => { usage with memory := (store.add id jars usage.memory).2 }
  | .commit =>
      match store.commit usage.memory with
      | (.ok (), memory) => { memory, pending := [], given := usage.given ++ usage.pending }
      | (.error _, memory) => { usage with memory }
  | .rollback => { usage with memory := (store.rollback usage.memory).2, pending := [] }
  | .abandon => { usage with memory := store.abandon usage.memory, pending := [] }
  | .find linkingHash => { usage with memory := (store.find linkingHash usage.memory).2 }
  | .delete linkingHash => { usage with memory := (store.delete linkingHash usage.memory).2 }
  | .counts => { usage with memory := (store.counts usage.memory).2 }

/-- Make a call, unless it has to wait for the open transaction. -/
def step (usage : Usage) (call : StoreCall) : Usage :=
  if call.waits && !usage.memory.isFree then usage else usage.make call

/-- Make calls one after the other. -/
def run (usage : Usage) (calls : List StoreCall) : Usage := calls.foldl step usage

end Usage

/-- The jars of all instances of a ledger are among the jars ever seen. -/
structure Ledger.Documented (ledger : Ledger) : Prop where
  direct : ∀ entry ∈ ledger.entries, ∀ hash, entry.2.jars.contains hash = true →
    ledger.jars.contains hash = true
  modules : ∀ entry ∈ ledger.entries, ∀ hash, entry.2.inserted.moduleJars.contains hash = true →
    ledger.jars.contains hash = true
  deployed : ∀ entry ∈ ledger.entries, ∀ deployment ∈ entry.2.inserted.deployments, ∀ hash,
    deployment.jars.contains hash = true → ledger.jars.contains hash = true

namespace Ledger

variable {ledger : Ledger} {given : List (InstanceId × Instance)}

/-- Jars ever seen stay, with their descriptions. -/
def Extends (after before : Ledger) : Prop :=
  ∀ hash label, before.jars.get? hash = some label → after.jars.get? hash = some label

theorem Extends.refl (ledger : Ledger) : ledger.Extends ledger := fun _ _ found => found

theorem Extends.trans {first second third : Ledger} (later : third.Extends second)
    (earlier : second.Extends first) : third.Extends first :=
  fun hash label found => later hash label (earlier hash label found)

theorem Extends.contains {after before : Ledger} (grown : after.Extends before) {hash : String}
    (present : before.jars.contains hash = true) : after.jars.contains hash = true := by
  obtain ⟨label, found⟩ := (SortedMap.contains_iff _ _).mp present
  exact (SortedMap.contains_iff _ _).mpr ⟨label, grown hash label found⟩

theorem extends_remember (ledger : Ledger) (jars : JarSet) :
    (ledger.remember jars).Extends ledger := by
  intro hash label found
  rw [remember, SortedMap.get?_union, found]
  rfl

theorem extends_add (ledger : Ledger) (id : InstanceId) (jars : JarSet) :
    (ledger.add id jars).2.Extends ledger := by
  rw [add]
  split <;> exact extends_remember ledger jars

theorem extends_delete (ledger : Ledger) (linkingHash : String) :
    (ledger.delete linkingHash).2.Extends ledger := by
  rw [delete]
  split <;> exact .refl ledger

/-- What holds of a ledger, with the numbers that were given up to it. -/
structure Kept (ledger : Ledger) (given : List (InstanceId × Instance)) : Prop where
  sound : ledger.Sound
  documented : ledger.Documented
  /-- Numbers ascend, so none is given twice. -/
  ascending : (given.map Prod.fst).Pairwise (· < ·)
  bounded : ∀ gift ∈ given, gift.1 ≤ ledger.lastId
  /-- An instance has the number that it was given. -/
  recorded : ∀ id entry, (id, entry) ∈ ledger.entries → (id, entry.inserted) ∈ given

theorem kept_empty : Kept {} [] where
  sound := sound_empty
  documented :=
    { direct := fun _ member => nomatch member
      modules := fun _ member => nomatch member
      deployed := fun _ member => nomatch member }
  ascending := List.Pairwise.nil
  bounded := fun _ member => nomatch member
  recorded := fun _ _ member => nomatch member

/-- A ledger of which some instances may have gone. -/
theorem Documented.mono {before after : Ledger} (documented : before.Documented)
    (fewer : ∀ entry ∈ after.entries, ∃ old ∈ before.entries,
      old.2.inserted = entry.2.inserted ∧ ∀ hash, entry.2.jars.contains hash = true →
        old.2.jars.contains hash = true ∨ after.jars.contains hash = true)
    (grown : after.Extends before) : after.Documented where
  direct := by
    intro entry member hash present
    obtain ⟨old, inside, -, reason⟩ := fewer entry member
    rcases reason hash present with before | now
    · exact grown.contains (documented.direct old inside hash before)
    · exact now
  modules := by
    intro entry member hash present
    obtain ⟨old, inside, same, -⟩ := fewer entry member
    exact grown.contains (documented.modules old inside hash (same ▸ present))
  deployed := by
    intro entry member deployment among hash present
    obtain ⟨old, inside, same, -⟩ := fewer entry member
    exact grown.contains (documented.deployed old inside deployment (same ▸ among) hash present)

/-- A new instance gets a number that was not given before, and its jars are noted. -/
theorem Kept.inserted (kept : ledger.Kept given) {new : Instance}
    (free : ledger.byLinkingHash.get? new.linkingHash = none) :
    (ledger.inserted new).Kept (given ++ [(ledger.lastId + 1, new)]) := by
  have grown : (ledger.inserted new).Extends ledger := extends_remember ledger new.allJars
  have noted (hash : String) (present : new.allJars.contains hash = true) :
      (ledger.inserted new).jars.contains hash = true := by
    rw [Ledger.inserted, SortedMap.contains_union, present, Bool.or_true]
  have old {entry : InstanceId × LedgerEntry} (member : entry ∈ (ledger.inserted new).entries) :
      entry ∈ ledger.entries ∨
        entry = (ledger.lastId + 1, ⟨new, new.machine.jars.hashes⟩) :=
    (List.mem_append.mp member).imp_right List.mem_singleton.mp
  refine ⟨kept.sound.inserted free, ⟨?_, ?_, ?_⟩, ?_, ?_, ?_⟩
  · intro entry member hash present
    rcases old member with before | rfl
    · exact grown.contains (kept.documented.direct entry before hash present)
    · rw [JarSet.contains_hashes] at present
      exact noted hash (by rw [Instance.contains_allJars, present, Bool.true_or, Bool.true_or])
  · intro entry member hash present
    rcases old member with before | rfl
    · exact grown.contains (kept.documented.modules entry before hash present)
    · exact noted hash (by rw [Instance.contains_allJars, present, Bool.or_true, Bool.true_or])
  · intro entry member deployment among hash present
    rcases old member with before | rfl
    · exact grown.contains (kept.documented.deployed entry before deployment among hash present)
    · refine noted hash ?_
      rw [Instance.contains_allJars, List.any_eq_true.mpr ⟨deployment, among, present⟩,
        Bool.or_true]
  · rw [List.map_append, List.map_singleton, List.pairwise_append]
    refine ⟨kept.ascending, List.pairwise_singleton _ _, fun id member fresh singleton => ?_⟩
    obtain ⟨gift, inside, rfl⟩ := List.mem_map.mp member
    rw [List.mem_singleton.mp singleton]
    exact Int.lt_add_one_iff.mpr (kept.bounded gift inside)
  · intro gift member
    rcases List.mem_append.mp member with before | fresh
    · exact Int.le_of_lt (Int.lt_add_one_iff.mpr (kept.bounded gift before))
    · rw [List.mem_singleton.mp fresh]
      exact Int.le_refl _
  · intro id entry member
    rcases old member with before | fresh
    · exact List.mem_append_left _ (kept.recorded id entry before)
    · obtain ⟨rfl, rfl⟩ := Prod.mk.inj fresh
      exact List.mem_append_right _ List.mem_cons_self

theorem Kept.add (kept : ledger.Kept given) (id : InstanceId) (jars : JarSet) :
    (ledger.add id jars).2.Kept given := by
  have grown := extends_add ledger id jars
  have sound := kept.sound.add id jars
  cases found : ledger.entry? id with
  | none =>
      rw [add_of_absent found jars] at grown sound ⊢
      refine ⟨sound, kept.documented.mono (fun entry member => ?_) grown, kept.ascending,
        kept.bounded, kept.recorded⟩
      exact ⟨entry, member, rfl, fun _ => .inl⟩
  | some held =>
      have inside := kept.sound.entry?_eq_some_iff.mp found
      rw [add_of_entry found jars] at grown sound ⊢
      refine ⟨sound, kept.documented.mono ?_ grown, kept.ascending, kept.bounded, ?_⟩
      · rintro ⟨number, entry⟩ member
        obtain ⟨before, was, rfl⟩ := mem_setJars.mp member
        refine ⟨(number, before), was, ?_, fun hash present => ?_⟩
        · dsimp only
          split <;> rfl
        · by_cases same : number = id
          · subst same
            obtain rfl := kept.sound.entry_unique was inside
            rw [if_pos rfl, SortedMap.contains_union, Bool.or_eq_true,
              JarSet.contains_hashes] at present
            refine present.imp_right fun added => ?_
            rw [remember, SortedMap.contains_union, added, Bool.or_true]
          · rw [if_neg same] at present
            exact .inl present
      · intro number entry member
        obtain ⟨before, was, same⟩ := inserted_of_mem_setJars member
        exact same ▸ kept.recorded number before was

theorem Kept.delete (kept : ledger.Kept given) (linkingHash : String) :
    (ledger.delete linkingHash).2.Kept given := by
  have grown := extends_delete ledger linkingHash
  have sound := kept.sound.delete linkingHash
  cases index : ledger.byLinkingHash.get? linkingHash with
  | none =>
      rw [delete_of_free index]
      exact kept
  | some id =>
      obtain ⟨entry, member, -⟩ := (kept.sound.indexed _ _).mp index
      rw [delete_of_entry index (kept.sound.entry?_eq_some_iff.mpr member)] at grown sound ⊢
      refine ⟨sound, kept.documented.mono (fun other inside => ?_) grown, kept.ascending,
        kept.bounded, fun number other inside => ?_⟩
      · exact ⟨other, (mem_forgotten.mp inside).1, rfl, fun _ => .inl⟩
      · exact kept.recorded number other (mem_forgotten.mp inside).1

/-- A look-up in a sound ledger finds at most one instance. -/
theorem length_lookup_le (ledger : Ledger) (linkingHash : String) :
    (ledger.lookup linkingHash).length ≤ 1 := by
  rw [lookup]
  split
  · exact Nat.zero_le _
  · split
    · exact Nat.zero_le _
    · exact Nat.le_refl _

/-- In a sound ledger whatever the index names can be read back. -/
theorem Sound.exists_find (sound : ledger.Sound) (linkingHash : String) :
    ∃ found, ledger.find linkingHash = .ok found := by
  rw [find]
  cases index : ledger.byLinkingHash.get? linkingHash with
  | none => exact ⟨none, rfl⟩
  | some id =>
      obtain ⟨entry, member, -⟩ := (sound.indexed _ _).mp index
      simp only [sound.entry?_eq_some_iff.mpr member]
      exact ⟨_, rfl⟩

end Ledger

namespace Usage

open MemoryStore (store)

/-- The ledger that everyone sees, and the copy of the open transaction. -/
def ledgers (usage : Usage) : List Ledger :=
  usage.memory.committed :: usage.memory.staged.toList

/-- What holds under any use. -/
structure Intact (usage : Usage) : Prop where
  committed : usage.memory.committed.Kept usage.given
  staged : ∀ copy, usage.memory.staged = some copy →
    copy.Kept (usage.given ++ usage.pending) ∧ copy.Extends usage.memory.committed

/-- What later use does not undo. -/
structure Precedes (before after : Usage) : Prop where
  extends_committed : after.memory.committed.Extends before.memory.committed
  given_prefix : before.given <+: after.given

variable {usage : Usage}

theorem intact_fresh : ({} : Usage).Intact where
  committed := Ledger.kept_empty
  staged := nofun

theorem Precedes.refl (usage : Usage) : usage.Precedes usage where
  extends_committed := .refl _
  given_prefix := List.prefix_rfl

theorem Precedes.trans {first second third : Usage} (earlier : first.Precedes second)
    (later : second.Precedes third) : first.Precedes third where
  extends_committed := later.extends_committed.trans earlier.extends_committed
  given_prefix := earlier.given_prefix.trans later.given_prefix

/-- Without an open transaction, or at its end, only what everyone sees matters. -/
theorem intact_of_committed {committed : Ledger} {given : List (InstanceId × Instance)}
    (kept : committed.Kept given) (pending : List (InstanceId × Instance)) :
    Intact ⟨⟨committed, none⟩, pending, given⟩ where
  committed := kept
  staged := nofun

/-- A transaction goes on with another copy. -/
theorem Intact.withStaged {committed copy after : Ledger}
    {pending more given : List (InstanceId × Instance)}
    (intact : Intact ⟨⟨committed, some copy⟩, pending, given⟩)
    (kept : copy.Kept (given ++ pending) → after.Kept (given ++ more))
    (grown : after.Extends copy) : Intact ⟨⟨committed, some after⟩, more, given⟩ where
  committed := intact.committed
  staged := by
    rintro _ ⟨⟩
    obtain ⟨before, extended⟩ := intact.staged copy rfl
    exact ⟨kept before, grown.trans extended⟩

/-- Calls that are not made while they have to wait leave the store intact, and what later use does
not undo. -/
theorem Intact.make (intact : usage.Intact) {call : StoreCall}
    (free : call.waits = true → usage.memory.isFree = true) :
    (usage.make call).Intact ∧ usage.Precedes (usage.make call) := by
  obtain ⟨⟨committed, _ | copy⟩, pending, given⟩ := usage
  · -- No transaction is open, so its requests are refused.
    have same := Precedes.refl ⟨⟨committed, none⟩, pending, given⟩
    cases call with
    | begin =>
        refine ⟨⟨intact.committed, ?_⟩, .refl _, List.prefix_rfl⟩
        rintro _ ⟨⟩
        exact ⟨(List.append_nil given).symm ▸ intact.committed, .refl _⟩
    | delete linkingHash =>
        exact ⟨intact_of_committed (intact.committed.delete linkingHash) pending,
          Ledger.extends_delete committed linkingHash, List.prefix_rfl⟩
    | rollback => exact ⟨intact_of_committed intact.committed [], .refl _, List.prefix_rfl⟩
    | abandon => exact ⟨intact_of_committed intact.committed [], .refl _, List.prefix_rfl⟩
    | insert new => exact ⟨intact, same⟩
    | lookup linkingHash => exact ⟨intact, same⟩
    | add id jars => exact ⟨intact, same⟩
    | commit => exact ⟨intact, same⟩
    | find linkingHash => exact ⟨intact, same⟩
    | counts => exact ⟨intact, same⟩
  · obtain ⟨kept, grown⟩ := intact.staged copy rfl
    cases call with
    | insert new =>
        refine ⟨?_, ?_⟩
        · cases index : copy.byLinkingHash.get? new.linkingHash with
          | some id =>
              simpa [Usage.make, store, MemoryStore.onStaged, Ledger.insert_of_taken index] using
                intact
          | none =>
              simp only [Usage.make, store, MemoryStore.onStaged, Ledger.insert_of_free index]
              refine intact.withStaged (fun before => ?_) (Ledger.extends_remember copy new.allJars)
              exact List.append_assoc _ _ _ ▸ before.inserted index
        · simp only [Usage.make]
          split <;> rename_i request
          · obtain rfl := congrArg Prod.snd request
            exact ⟨.refl _, List.prefix_rfl⟩
          · obtain rfl := congrArg Prod.snd request
            exact ⟨.refl _, List.prefix_rfl⟩
    | lookup linkingHash => exact ⟨intact.withStaged id (.refl _), .refl _, List.prefix_rfl⟩
    | add id jars =>
        exact ⟨intact.withStaged (fun before => before.add id jars)
          (Ledger.extends_add copy id jars), .refl _, List.prefix_rfl⟩
    | commit => exact ⟨intact_of_committed kept [], grown, List.prefix_append _ _⟩
    | rollback => exact ⟨intact_of_committed intact.committed [], .refl _, List.prefix_rfl⟩
    | abandon => exact ⟨intact_of_committed intact.committed [], .refl _, List.prefix_rfl⟩
    | begin => exact absurd (free rfl) Bool.false_ne_true
    | find linkingHash => exact absurd (free rfl) Bool.false_ne_true
    | delete linkingHash => exact absurd (free rfl) Bool.false_ne_true
    | counts => exact absurd (free rfl) Bool.false_ne_true

theorem Intact.step (intact : usage.Intact) (call : StoreCall) :
    (usage.step call).Intact ∧ usage.Precedes (usage.step call) := by
  rw [Usage.step]
  split
  · exact ⟨intact, .refl usage⟩
  · rename_i proceeds
    refine intact.make fun waits => ?_
    simpa [waits] using proceeds

theorem Intact.run (intact : usage.Intact) (calls : List StoreCall) :
    (usage.run calls).Intact ∧ usage.Precedes (usage.run calls) := by
  induction calls generalizing usage with
  | nil => exact ⟨intact, .refl usage⟩
  | cons call rest ih =>
      obtain ⟨stepped, first⟩ := intact.step call
      obtain ⟨ended, later⟩ := ih stepped
      exact ⟨ended, first.trans later⟩

/-- The store in memory under any use: the ledger that everyone sees and the copy of the open
transaction are sound, all jars of their instances are noted, a look-up finds at most one instance,
and whatever is indexed can be read back.  In what was ever committed no number is given twice, and
whatever is done later, the jars that are noted stay as they are. -/
theorem run_intact (calls later : List StoreCall) :
    let usage := run {} calls
    let after := usage.run later
    (∀ ledger ∈ usage.ledgers, ledger.Sound ∧ ledger.Documented ∧ ∀ linkingHash,
        (ledger.lookup linkingHash).length ≤ 1 ∧ ∃ found, ledger.find linkingHash = .ok found) ∧
      (after.given.map Prod.fst).Nodup ∧
      (∀ id entry, (id, entry) ∈ usage.memory.committed.entries →
        (id, entry.inserted) ∈ after.given) ∧
      after.memory.committed.Extends usage.memory.committed := by
  intro usage after
  obtain ⟨intact, -⟩ := intact_fresh.run calls
  obtain ⟨ended, precedes⟩ := intact.run later
  refine ⟨fun ledger member => ?_, ?_, fun id entry member => ?_, precedes.extends_committed⟩
  · obtain ⟨given, kept⟩ : ∃ given, ledger.Kept given := by
      rcases List.mem_cons.mp member with rfl | copied
      · exact ⟨_, intact.committed⟩
      · exact ⟨_, (intact.staged ledger (Option.mem_toList.mp copied)).1⟩
    exact ⟨kept.sound, kept.documented, fun linkingHash =>
      ⟨ledger.length_lookup_le linkingHash, kept.sound.exists_find linkingHash⟩⟩
  · exact ended.committed.ascending.imp Int.ne_of_lt
  · exact precedes.given_prefix.subset (intact.committed.recorded id entry member)

end Usage
end JarLedger
