import JarLedger.Proofs.SortedMap
import JarLedger.Proofs.Reconciliation.Run

/-!
# Sound ledgers

In a sound ledger the numbers of instances are distinct and none is above the number given last, and
the index of linking hashes names exactly the instances that are there.  Every operation keeps a
ledger sound, also where it fails.
-/

namespace JarLedger
namespace Ledger

/-- What holds of every ledger that operations lead to. -/
structure Sound (ledger : Ledger) : Prop where
  /-- Numbers are given from one on. -/
  started : 0 ≤ ledger.lastId
  /-- No two instances have one number. -/
  distinct : (ledger.entries.map Prod.fst).Nodup
  /-- Every number was given. -/
  numbered : ∀ entry ∈ ledger.entries, 1 ≤ entry.1 ∧ entry.1 ≤ ledger.lastId
  /-- The index holds the number of every instance under its linking hash, and nothing else. -/
  indexed : ∀ linkingHash id, ledger.byLinkingHash.get? linkingHash = some id ↔
    ∃ entry, (id, entry) ∈ ledger.entries ∧ entry.inserted.linkingHash = linkingHash

theorem sound_empty : Sound {} where
  started := Int.le_refl _
  distinct := List.nodup_nil
  numbered := fun _ member => nomatch member
  indexed := fun linkingHash id => by simp [SortedMap.get?_empty]

/-! ## Entries by number -/

namespace Sound

variable {ledger : Ledger}

theorem entry?_eq_some_iff (sound : ledger.Sound) {id : InstanceId} {entry : LedgerEntry} :
    ledger.entry? id = some entry ↔ (id, entry) ∈ ledger.entries :=
  SortedMap.lookup_eq_some_iff_of_nodup sound.distinct

theorem entry_unique (sound : ledger.Sound) {id : InstanceId} {first second : LedgerEntry}
    (left : (id, first) ∈ ledger.entries) (right : (id, second) ∈ ledger.entries) :
    first = second := by
  rw [← sound.entry?_eq_some_iff] at left right
  exact Option.some.inj (left.symm.trans right)

/-- No two instances have one linking hash. -/
theorem holder_unique (sound : ledger.Sound) {first second : InstanceId × LedgerEntry}
    (left : first ∈ ledger.entries) (right : second ∈ ledger.entries)
    (same : first.2.inserted.linkingHash = second.2.inserted.linkingHash) : first = second := by
  have firstIndexed := (sound.indexed _ first.1).mpr ⟨first.2, left, same⟩
  have secondIndexed := (sound.indexed _ second.1).mpr ⟨second.2, right, rfl⟩
  have number : first.1 = second.1 := Option.some.inj (firstIndexed.symm.trans secondIndexed)
  refine Prod.ext number (sound.entry_unique left ?_)
  rw [number]
  exact right

end Sound

/-! ## Operations case by case -/

/-- The ledger after an insert that is not refused. -/
def inserted (ledger : Ledger) (new : Instance) : Ledger where
  lastId := ledger.lastId + 1
  entries := ledger.entries ++ [(ledger.lastId + 1, ⟨new, new.machine.jars.hashes⟩)]
  byLinkingHash := ledger.byLinkingHash.insert new.linkingHash (ledger.lastId + 1)
  jars := ledger.jars.union new.allJars

theorem insert_of_taken {ledger : Ledger} {new : Instance} {id : InstanceId}
    (taken : ledger.byLinkingHash.get? new.linkingHash = some id) :
    ledger.insert new = (.error (.uniqueViolation new.linkingHash), ledger) := by
  rw [insert, if_pos ((SortedMap.contains_iff _ _).mpr ⟨id, taken⟩)]

theorem insert_of_free {ledger : Ledger} {new : Instance}
    (free : ledger.byLinkingHash.get? new.linkingHash = none) :
    ledger.insert new = (.ok (ledger.lastId + 1), ledger.inserted new) := by
  have absent := (SortedMap.contains_eq_false_iff _ _).mpr free
  simp [insert, absent, inserted, remember]

theorem lookup_of_free {ledger : Ledger} {linkingHash : String}
    (free : ledger.byLinkingHash.get? linkingHash = none) : ledger.lookup linkingHash = [] := by
  simp only [lookup, free]

theorem lookup_of_entry {ledger : Ledger} {linkingHash : String} {id : InstanceId}
    {entry : LedgerEntry} (index : ledger.byLinkingHash.get? linkingHash = some id)
    (found : ledger.entry? id = some entry) :
    ledger.lookup linkingHash = [⟨id, linkingHash, entry.inserted.kind⟩] := by
  simp only [lookup, index, found]

theorem add_of_absent {ledger : Ledger} {id : InstanceId} (absent : ledger.entry? id = none)
    (jars : JarSet) :
    ledger.add id jars =
      (.error (.inconsistent ("no instance with id " ++ toString id)), ledger.remember jars) := by
  have missed : Ledger.entry? (ledger.remember jars) id = none := absent
  simp only [add, missed]

theorem add_of_entry {ledger : Ledger} {id : InstanceId} {entry : LedgerEntry}
    (found : ledger.entry? id = some entry) (jars : JarSet) :
    ledger.add id jars =
      (.ok (newHashes entry.jars jars).length,
        { ledger.remember jars with
          entries := setJars ledger.entries id (entry.jars.union jars.hashes) }) := by
  have kept : Ledger.entry? (ledger.remember jars) id = some entry := found
  simp only [add, kept]
  rfl

/-- The ledger after an instance is removed. -/
def forgotten (ledger : Ledger) (linkingHash : String) (id : InstanceId) : Ledger :=
  { ledger with
    entries := ledger.entries.filter fun entry => entry.1 ≠ id
    byLinkingHash := ledger.byLinkingHash.erase linkingHash }

theorem mem_forgotten {ledger : Ledger} {linkingHash : String} {id : InstanceId}
    {entry : InstanceId × LedgerEntry} :
    entry ∈ (ledger.forgotten linkingHash id).entries ↔ entry ∈ ledger.entries ∧ entry.1 ≠ id := by
  simp [forgotten]

theorem delete_of_free {ledger : Ledger} {linkingHash : String}
    (free : ledger.byLinkingHash.get? linkingHash = none) :
    ledger.delete linkingHash = (false, ledger) := by
  simp only [delete, free]

theorem delete_of_entry {ledger : Ledger} {linkingHash : String} {id : InstanceId}
    {entry : LedgerEntry} (index : ledger.byLinkingHash.get? linkingHash = some id)
    (found : ledger.entry? id = some entry) :
    ledger.delete linkingHash = (true, ledger.forgotten linkingHash id) := by
  simp only [delete, index, found]
  rfl

/-! ## Operations keep a ledger sound -/

theorem Sound.remember {ledger : Ledger} (sound : ledger.Sound) (jars : JarSet) :
    (ledger.remember jars).Sound :=
  ⟨sound.started, sound.distinct, sound.numbered, sound.indexed⟩

theorem Sound.inserted {ledger : Ledger} (sound : ledger.Sound) {new : Instance}
    (free : ledger.byLinkingHash.get? new.linkingHash = none) : (ledger.inserted new).Sound where
  started := Int.add_nonneg sound.started (by decide)
  distinct := by
    have fresh : ledger.lastId + 1 ∉ ledger.entries.map Prod.fst := by
      intro member
      obtain ⟨entry, inside, number⟩ := List.mem_map.mp member
      have below := (sound.numbered entry inside).2
      rw [number] at below
      exact Int.not_le.mpr (Int.lt_succ _) below
    rw [Ledger.inserted, List.map_append, List.map_singleton, List.nodup_append]
    refine ⟨sound.distinct, List.nodup_singleton _, ?_⟩
    intro given member added singleton
    rw [List.mem_singleton.mp singleton]
    rintro rfl
    exact fresh member
  numbered := by
    intro entry member
    have started := sound.started
    rcases List.mem_append.mp member with old | new
    · have bounds := sound.numbered entry old
      exact ⟨bounds.1, Int.le_trans bounds.2 (Int.le_of_lt (Int.lt_succ _))⟩
    · rw [List.mem_singleton.mp new]
      exact ⟨Int.le_add_of_nonneg_left started, Int.le_refl _⟩
  indexed := by
    intro linkingHash id
    rw [Ledger.inserted, SortedMap.get?_insert]
    simp only [List.mem_append, List.mem_singleton, Prod.mk.injEq]
    by_cases equal : linkingHash = new.linkingHash
    · subst equal
      rw [if_pos rfl]
      constructor
      · intro number
        exact ⟨_, .inr ⟨(Option.some.inj number).symm, rfl⟩, rfl⟩
      · rintro ⟨entry, old | ⟨rfl, rfl⟩, same⟩
        · have taken := (sound.indexed _ id).mpr ⟨entry, old, same⟩
          rw [free] at taken
          cases taken
        · rfl
    · rw [if_neg equal, sound.indexed]
      constructor
      · rintro ⟨entry, old, same⟩
        exact ⟨entry, .inl old, same⟩
      · rintro ⟨entry, old | ⟨_, rfl⟩, same⟩
        · exact ⟨entry, old, same⟩
        · exact absurd same.symm equal

theorem Sound.insert {ledger : Ledger} (sound : ledger.Sound) (new : Instance) :
    (ledger.insert new).2.Sound := by
  cases index : ledger.byLinkingHash.get? new.linkingHash with
  | some id =>
      rw [insert_of_taken index]
      exact sound
  | none =>
      rw [insert_of_free index]
      exact sound.inserted index

theorem mem_setJars {entries : List (InstanceId × LedgerEntry)} {id number : InstanceId}
    {jars : StringSet} {entry : LedgerEntry} :
    (number, entry) ∈ setJars entries id jars ↔
      ∃ before, (number, before) ∈ entries ∧
        entry = if number = id then { before with jars } else before := by
  rw [setJars, List.mem_map]
  constructor
  · rintro ⟨⟨stored, before⟩, member, equal⟩
    by_cases same : stored = id
    · subst same
      rw [if_pos rfl] at equal
      obtain ⟨rfl, rfl⟩ := Prod.mk.inj equal
      exact ⟨before, member, (if_pos rfl).symm⟩
    · rw [if_neg same] at equal
      obtain ⟨rfl, rfl⟩ := Prod.mk.inj equal
      exact ⟨before, member, (if_neg same).symm⟩
  · rintro ⟨before, member, rfl⟩
    refine ⟨(number, before), member, ?_⟩
    by_cases same : number = id
    · simp [same]
    · simp [same]

theorem map_fst_setJars (entries : List (InstanceId × LedgerEntry)) (id : InstanceId)
    (jars : StringSet) : (setJars entries id jars).map Prod.fst = entries.map Prod.fst := by
  rw [setJars, List.map_map]
  refine List.map_congr_left fun entry _ => ?_
  by_cases same : entry.1 = id
  · simp [same]
  · simp [same]

/-- An update of jars leaves the descriptions of all instances as they are. -/
theorem inserted_of_mem_setJars {entries : List (InstanceId × LedgerEntry)}
    {id number : InstanceId} {jars : StringSet} {entry : LedgerEntry}
    (member : (number, entry) ∈ setJars entries id jars) :
    ∃ before, (number, before) ∈ entries ∧ before.inserted = entry.inserted := by
  obtain ⟨before, inside, rfl⟩ := mem_setJars.mp member
  refine ⟨before, inside, ?_⟩
  by_cases same : number = id
  · rw [if_pos same]
  · rw [if_neg same]

theorem Sound.setJars {ledger : Ledger} (sound : ledger.Sound) (id : InstanceId)
    (jars : StringSet) :
    ({ ledger with entries := Ledger.setJars ledger.entries id jars } : Ledger).Sound where
  started := sound.started
  distinct := by
    rw [map_fst_setJars]
    exact sound.distinct
  numbered := by
    rintro ⟨number, entry⟩ member
    obtain ⟨before, inside, _⟩ := inserted_of_mem_setJars member
    exact sound.numbered (number, before) inside
  indexed := by
    intro linkingHash number
    rw [sound.indexed]
    constructor
    · rintro ⟨before, inside, same⟩
      refine ⟨_, mem_setJars.mpr ⟨before, inside, rfl⟩, ?_⟩
      by_cases equal : number = id
      · rw [if_pos equal]
        exact same
      · rw [if_neg equal]
        exact same
    · rintro ⟨entry, member, same⟩
      obtain ⟨before, inside, described⟩ := inserted_of_mem_setJars member
      exact ⟨before, inside, described ▸ same⟩

theorem Sound.add {ledger : Ledger} (sound : ledger.Sound) (id : InstanceId) (jars : JarSet) :
    (ledger.add id jars).2.Sound := by
  rw [Ledger.add]
  split
  · exact sound.remember jars
  · exact (sound.remember jars).setJars id _

theorem Sound.forgotten {ledger : Ledger} (sound : ledger.Sound) {linkingHash : String}
    {id : InstanceId} (index : ledger.byLinkingHash.get? linkingHash = some id) :
    (ledger.forgotten linkingHash id).Sound where
  started := sound.started
  distinct := sound.distinct.sublist (List.filter_sublist.map _)
  numbered := fun entry member => sound.numbered entry (List.mem_of_mem_filter member)
  indexed := by
    intro sought number
    simp only [mem_forgotten]
    rw [Ledger.forgotten, SortedMap.get?_erase]
    obtain ⟨removed, found, held⟩ := (sound.indexed _ _).mp index
    by_cases equal : sought = linkingHash
    · rw [if_pos equal]
      refine ⟨nofun, ?_⟩
      rintro ⟨entry, ⟨member, different⟩, same⟩
      have unique := sound.holder_unique member found (same.trans (equal.trans held.symm))
      exact absurd (congrArg Prod.fst unique) different
    · rw [if_neg equal, sound.indexed]
      constructor
      · rintro ⟨entry, member, same⟩
        refine ⟨entry, ⟨member, ?_⟩, same⟩
        rintro rfl
        rw [sound.entry_unique member found, held] at same
        exact equal same.symm
      · rintro ⟨entry, ⟨member, _⟩, same⟩
        exact ⟨entry, member, same⟩

theorem Sound.delete {ledger : Ledger} (sound : ledger.Sound) (linkingHash : String) :
    (ledger.delete linkingHash).2.Sound := by
  cases index : ledger.byLinkingHash.get? linkingHash with
  | none =>
      rw [delete_of_free index]
      exact sound
  | some id =>
      obtain ⟨entry, member, _⟩ := (sound.indexed _ _).mp index
      rw [delete_of_entry index (sound.entry?_eq_some_iff.mpr member)]
      exact sound.forgotten index

/-- A message keeps a ledger sound, whatever comes of it. -/
theorem Sound.settle {ledger : Ledger} (sound : ledger.Sound) (message : Message) :
    (ledger.settle message).2.Sound := by
  cases message with
  | newInstance new =>
      have kept := sound.insert new
      rw [Ledger.settle]
      split
      · rename_i insertion
        rw [insertion] at kept
        exact kept
      · exact sound
  | update delta =>
      rw [Ledger.settle]
      split
      · exact sound
      · rename_i row _
        have kept := sound.add row.id delta.jars
        split
        · rename_i addition
          rw [addition] at kept
          exact kept
        · exact sound
      · exact sound

end Ledger
end JarLedger
