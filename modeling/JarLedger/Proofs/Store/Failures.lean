import JarLedger.Proofs.Store.Arrival
import JarLedger.Proofs.Store.Reflection

/-!
# Failures inside a transaction

An insert that fails leaves the copy that its transaction works on as it was.  Jars that are brought
to an instance which is not there are refused as well, but they are noted, and so a transaction that
goes on after such a failure publishes them among the jars ever seen.  Nothing else ever tells of
the failure (`MemoryStore.make_failing`).
-/

namespace JarLedger

/-- A call that changes what a transaction will publish. -/
inductive Change where
  | insert (new : Instance)
  | add (id : InstanceId) (jars : JarSet)

/-- What a change answers. -/
inductive Changed where
  | inserted (id : InstanceId)
  | added (count : Nat)
  deriving DecidableEq

namespace Change

variable {σ : Type}

/-- Ask a store for a change. -/
def make (store : Store σ) : Change → σ → Except PersistenceError Changed × σ
  | .insert new, state =>
      let (result, state) := store.insert new state
      (result.map .inserted, state)
  | .add id jars, state =>
      let (result, state) := store.add id jars state
      (result.map .added, state)

/-- Ask for changes one after the other, and go on after a failure. -/
def makeAll (store : Store σ) :
    List Change → σ → List (Except PersistenceError Changed) × σ
  | [], state => ([], state)
  | change :: rest, state =>
      let made := change.make store state
      let later := makeAll store rest made.2
      (made.1 :: later.1, later.2)

/-- The jars that a change notes where it fails. -/
def noted : Change → JarSet
  | .insert _ => JarSet.empty
  | .add _ jars => jars

end Change

namespace Ledger

variable {ledger left right : Ledger} {extra : JarSet}

/-- The answer of a ledger to a change, and the ledger afterwards. -/
def change (ledger : Ledger) : Change → Except PersistenceError Changed × Ledger
  | .insert new => ((ledger.insert new).1.map .inserted, (ledger.insert new).2)
  | .add id jars => ((ledger.add id jars).1.map .added, (ledger.add id jars).2)

/-- The answers of a ledger to changes one after the other, and the ledger afterwards. -/
def changeAll : List Change → Ledger → List (Except PersistenceError Changed) × Ledger
  | [], ledger => ([], ledger)
  | change :: rest, ledger =>
      let later := changeAll rest (ledger.change change).2
      ((ledger.change change).1 :: later.1, later.2)

theorem remember_eq_self_iff {jars : JarSet} :
    ledger.remember jars = ledger ↔
      ∀ hash, jars.contains hash = true → ledger.jars.contains hash = true := by
  refine ⟨fun same hash present => ?_, remember_of_known⟩
  rw [← congrArg Ledger.jars same, remember, SortedMap.contains_union, present, Bool.or_true]

/-- How a change fails, and what it leaves. -/
theorem change_error {change : Change} {failure : PersistenceError}
    (fails : (ledger.change change).1 = .error failure) :
    (ledger.change change).2 = ledger.remember change.noted ∧
      ((∃ new, change = .insert new ∧ failure = .uniqueViolation new.linkingHash) ∨
        ∃ id jars, change = .add id jars ∧
          failure = .inconsistent ("no instance with id " ++ toString id)) := by
  cases change with
  | insert new =>
      rw [Ledger.change] at fails ⊢
      cases index : ledger.byLinkingHash.get? new.linkingHash with
      | none =>
          rw [insert_of_free index] at fails
          cases fails
      | some id =>
          rw [insert_of_taken index] at fails ⊢
          exact ⟨rfl, .inl ⟨new, rfl, (Except.error.inj fails).symm⟩⟩
  | add id jars =>
      rw [Ledger.change] at fails ⊢
      cases found : ledger.entry? id with
      | none =>
          rw [add_of_absent found] at fails ⊢
          exact ⟨rfl, .inr ⟨id, jars, rfl, (Except.error.inj fails).symm⟩⟩
      | some entry =>
          rw [add_of_entry found] at fails
          cases fails

/-! ## Ledgers that differ in jars ever seen -/

/-- A ledger has noted some jars beyond another one, and is the same otherwise. -/
structure SameBut (extra : JarSet) (left right : Ledger) : Prop where
  lastId : left.lastId = right.lastId
  entries : left.entries = right.entries
  byLinkingHash : left.byLinkingHash = right.byLinkingHash
  jars : ∀ hash, left.jars.contains hash = (right.jars.contains hash || extra.contains hash)

theorem sameBut_remember (ledger : Ledger) (extra : JarSet) :
    SameBut extra (ledger.remember extra) ledger where
  lastId := rfl
  entries := rfl
  byLinkingHash := rfl
  jars := SortedMap.contains_union ledger.jars extra

namespace SameBut

theorem entry?_eq (same : SameBut extra left right) (id : InstanceId) :
    left.entry? id = right.entry? id := by
  simp only [same.entries, entry?]

/-- Jars that both note beside the others stay the difference. -/
theorem contains_union (same : SameBut extra left right) (jars : JarSet) (hash : String) :
    (left.jars.union jars).contains hash =
      ((right.jars.union jars).contains hash || extra.contains hash) := by
  rw [SortedMap.contains_union, SortedMap.contains_union, same.jars, Bool.or_right_comm]

/-- A change answers the same, and keeps the difference. -/
theorem change (same : SameBut extra left right) (change : Change) :
    (left.change change).1 = (right.change change).1 ∧
      SameBut extra (left.change change).2 (right.change change).2 := by
  cases change with
  | insert new =>
      rw [Ledger.change, Ledger.change]
      cases index : right.byLinkingHash.get? new.linkingHash with
      | some id =>
          rw [insert_of_taken index, insert_of_taken (same.byLinkingHash ▸ index)]
          exact ⟨rfl, same⟩
      | none =>
          rw [insert_of_free index, insert_of_free (same.byLinkingHash ▸ index)]
          refine ⟨by rw [same.lastId], ?_, ?_, ?_, same.contains_union new.allJars⟩
          · exact congrArg (· + 1) same.lastId
          · simp only [inserted, same.entries, same.lastId]
          · simp only [inserted, same.byLinkingHash, same.lastId]
  | add id jars =>
      rw [Ledger.change, Ledger.change]
      cases found : right.entry? id with
      | none =>
          rw [add_of_absent found, add_of_absent ((same.entry?_eq id).trans found)]
          exact ⟨rfl, same.lastId, same.entries, same.byLinkingHash, same.contains_union jars⟩
      | some entry =>
          rw [add_of_entry found, add_of_entry ((same.entry?_eq id).trans found)]
          refine ⟨rfl, same.lastId, ?_, same.byLinkingHash, same.contains_union jars⟩
          simp only [same.entries]

theorem changeAll (same : SameBut extra left right) (changes : List Change) :
    (changeAll changes left).1 = (changeAll changes right).1 ∧
      SameBut extra (changeAll changes left).2 (changeAll changes right).2 := by
  induction changes generalizing left right with
  | nil => exact ⟨rfl, same⟩
  | cons change rest ih =>
      obtain ⟨answered, kept⟩ := same.change change
      obtain ⟨answers, ended⟩ := ih kept
      exact ⟨List.cons_eq_cons.mpr ⟨answered, answers⟩, ended⟩

theorem find_eq (same : SameBut extra left right) (linkingHash : String) :
    left.find linkingHash = right.find linkingHash := by
  simp only [find, same.byLinkingHash, same.entry?_eq]

/-- The jars that were noted beyond the others are counted, and nothing else. -/
theorem counts_eq (same : SameBut extra left right) :
    left.counts =
      addCounts right.counts { jarHashes := (newHashes right.jars.hashes extra).length } := by
  have size : left.jars.size = (right.jars.union extra).size :=
    SortedMap.size_eq_of_contains fun hash => by rw [same.jars, SortedMap.contains_union]
  rw [counts, same.entries, size, size_noted, foldl_addCounts, counts]

theorem counts_eq_iff (same : SameBut extra left right) :
    left.counts = right.counts ↔
      ∀ hash, extra.contains hash = true → right.jars.contains hash = true := by
  have unchanged : left.counts = right.counts ↔ newHashes right.jars.hashes extra = [] := by
    rw [same.counts_eq, ← List.length_eq_zero_iff]
    constructor
    · intro equal
      have jarHashes := congrArg StoreCounts.jarHashes equal
      simp only [addCounts] at jarHashes
      omega
    · intro none
      simp [none, addCounts]
  rw [unchanged, newHashes, List.filter_eq_nil_iff]
  simp only [SortedMap.mem_keys, JarSet.contains_hashes, Bool.not_eq_true', Bool.not_eq_false]

end SameBut
end Ledger

namespace MemoryStore

/-- In an open transaction a store in memory changes its copy as a ledger changes. -/
theorem make_eq (committed copy : Ledger) (change : Change) :
    change.make store ⟨committed, some copy⟩ =
      ((copy.change change).1, ⟨committed, some (copy.change change).2⟩) := by
  cases change <;> rfl

theorem makeAll_eq (committed copy : Ledger) (changes : List Change) :
    Change.makeAll store changes ⟨committed, some copy⟩ =
      ((Ledger.changeAll changes copy).1, ⟨committed, some (Ledger.changeAll changes copy).2⟩) := by
  induction changes generalizing copy with
  | nil => rfl
  | cons change rest ih =>
      rw [Change.makeAll, make_eq]
      dsimp only
      rw [ih]
      rfl

/-- A change that fails in an open transaction, in whatever state its copy is, is an insert of a
name that is taken, or jars for a number that nobody has.  It leaves the copy as it was but for the
jars, which are noted, and so as it was exactly if all of them were known.  Whatever changes come
after it answer as if it had not been made.  What is published then gives back every instance alike
and counts the same but for the jars that were noted, and so the same exactly if these are known
without it. -/
theorem make_failing (committed copy : Ledger) (change : Change) (failure : PersistenceError)
    (fails : (change.make store ⟨committed, some copy⟩).1 = .error failure)
    (after : List Change) :
    let memory : MemoryStore := ⟨committed, some copy⟩
    let failed := (change.make store memory).2
    let made := Change.makeAll store after failed
    let spared := Change.makeAll store after memory
    let published := (store.commit made.2).2
    let intended := (store.commit spared.2).2
    ((∃ new, change = .insert new ∧ failure = .uniqueViolation new.linkingHash) ∨
      ∃ id jars, change = .add id jars ∧
        failure = .inconsistent ("no instance with id " ++ toString id)) ∧
    failed = ⟨committed, some (copy.remember change.noted)⟩ ∧
    (failed = memory ↔
      ∀ hash, change.noted.contains hash = true → copy.jars.contains hash = true) ∧
    made.1 = spared.1 ∧
    (∀ linkingHash, (store.find linkingHash published).1 = (store.find linkingHash intended).1) ∧
    (store.counts published).1 = (store.counts intended).1.map (Ledger.addCounts ·
      { jarHashes := (Ledger.newHashes intended.committed.jars.hashes change.noted).length }) ∧
    ((store.counts published).1 = (store.counts intended).1 ↔
      ∀ hash, change.noted.contains hash = true →
        intended.committed.jars.contains hash = true) := by
  intro memory failed made spared published intended
  have made_eq := make_eq committed copy change
  rw [made_eq] at fails
  obtain ⟨left, ways⟩ := Ledger.change_error fails
  have copied : failed = ⟨committed, some (copy.remember change.noted)⟩ := by
    rw [← left]
    exact congrArg Prod.snd made_eq
  obtain ⟨answers, ended⟩ := (Ledger.sameBut_remember copy change.noted).changeAll after
  have after_failed := makeAll_eq committed (copy.remember change.noted) after
  rw [← copied] at after_failed
  have after_spared : spared = _ := makeAll_eq committed copy after
  have published_eq : published = ⟨(Ledger.changeAll after (copy.remember change.noted)).2, none⟩ :=
    congrArg (fun made => (store.commit made.2).2) after_failed
  have intended_eq : intended = ⟨(Ledger.changeAll after copy).2, none⟩ :=
    congrArg (fun spared => (store.commit spared.2).2) after_spared
  rw [published_eq, intended_eq]
  refine ⟨ways, copied, ?_, ?_, ended.find_eq, congrArg Except.ok ended.counts_eq, ?_⟩
  · rw [copied, ← Ledger.remember_eq_self_iff]
    exact ⟨fun same => Option.some.inj (congrArg MemoryStore.staged same),
      fun same => by rw [same]⟩
  · exact (congrArg Prod.fst after_failed).trans
      (answers.trans (congrArg Prod.fst after_spared).symm)
  · exact ⟨fun same => ended.counts_eq_iff.mp (Except.ok.inj same),
      fun known => congrArg Except.ok (ended.counts_eq_iff.mpr known)⟩

/-- A jar for an instance that is not there. -/
def strayJar : Change := .add 7 (JarSet.ofList [⟨"a", {}⟩])

theorem make_strayJar :
    let memory : MemoryStore := ⟨{}, some {}⟩
    let failed := (strayJar.make store memory).2
    (strayJar.make store memory).1 = .error (.inconsistent "no instance with id 7") ∧
      failed ≠ memory ∧
      (store.find "h" (store.commit failed).2).1 = .ok none ∧
      (store.counts (store.commit failed).2).1 = .ok { jarHashes := 1 } := by
  intro memory failed
  obtain ⟨-, -, same, -, found, counted, -⟩ := make_failing {} {} strayJar
    (.inconsistent "no instance with id 7") rfl []
  refine ⟨rfl, fun unchanged => ?_, found "h", counted⟩
  exact absurd (same.mp unchanged "a" (by decide)) (by decide)

/-- A transaction that goes on after a failure may publish something else than without it. -/
theorem not_spared_strayJar :
    ¬∀ (committed copy : Ledger) (change : Change) (failure : PersistenceError),
      (change.make store ⟨committed, some copy⟩).1 = .error failure →
        (store.counts (store.commit (change.make store ⟨committed, some copy⟩).2).2).1 =
          (store.counts (store.commit ⟨committed, some copy⟩).2).1 := by
  intro spared
  have same := spared {} {} strayJar (.inconsistent "no instance with id 7") rfl
  exact absurd (congrArg StoreCounts.jarHashes (Except.ok.inj same)) (by decide)

end MemoryStore
end JarLedger
