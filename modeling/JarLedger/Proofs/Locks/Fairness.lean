import JarLedger.KeyedLocks
import Mathlib.Data.List.Nodup

/-!
# Fair locks

As long as attempts have different names, all attempts on a key refer to the one lock that the map
holds for it, so they stand in one line, and only the first in a line holds (`Fair`).  Every
operation keeps locks fair, the two halves of a holder's end included: the map may forget a key at
any time at which no attempt refers to its lock.
-/

namespace JarLedger
namespace KeyedLocks

/-- How attempts and locks belong together. -/
structure Filed (keyed : KeyedLocks) : Prop where
  /-- Attempts have different names. -/
  distinct : (keyed.attempts.map LockAttempt.id).Nodup
  /-- Every attempt refers to the lock that the map holds for its key. -/
  filed : ∀ attempt ∈ keyed.attempts, keyed.locks.get? attempt.key = some attempt.lock
  /-- The locks in the map were made. -/
  made : ∀ key lock, keyed.locks.get? key = some lock → lock < keyed.made
  /-- No lock belongs to two keys. -/
  apart : ∀ left right lock, keyed.locks.get? left = some lock →
    keyed.locks.get? right = some lock → left = right

/-- What holds of all locks that operations lead to. -/
structure Fair (keyed : KeyedLocks) : Prop extends Filed keyed where
  /-- Whoever holds a lock is the first in its line. -/
  foremost : ∀ attempt ∈ keyed.attempts, attempt.holds = true → keyed.isFirst attempt = true

/-- Whether an attempt that is not over holds its lock. -/
def isHolder (keyed : KeyedLocks) (id : AttemptId) : Bool :=
  (keyed.attempt? id).any LockAttempt.holds

theorem fair_fresh : ({} : KeyedLocks).Fair where
  distinct := List.nodup_nil
  filed := nofun
  made := nofun
  apart := nofun
  foremost := nofun

variable {keyed : KeyedLocks} {attempt other : LockAttempt} {id : AttemptId} {key : String}

/-! ## Attempts by name and by key -/

theorem Filed.eq_of_id_eq (filed : keyed.Filed) (member : attempt ∈ keyed.attempts)
    (also : other ∈ keyed.attempts) (same : attempt.id = other.id) : attempt = other :=
  List.inj_on_of_nodup_map filed.distinct member also same

theorem Filed.attempt?_eq_some_iff (filed : keyed.Filed) :
    keyed.attempt? id = some attempt ↔ attempt ∈ keyed.attempts ∧ attempt.id = id := by
  constructor
  · intro found
    exact ⟨List.mem_of_find?_eq_some found, by simpa using List.find?_some found⟩
  · rintro ⟨member, rfl⟩
    obtain ⟨other, found⟩ : ∃ other, keyed.attempt? attempt.id = some other :=
      Option.isSome_iff_exists.mp (List.find?_isSome.mpr ⟨attempt, member, by simp⟩)
    have same : other.id = attempt.id := by simpa using List.find?_some found
    rw [found, filed.eq_of_id_eq (List.mem_of_find?_eq_some found) member same]

theorem Filed.isHolder_of_mem (filed : keyed.Filed) (member : attempt ∈ keyed.attempts) :
    keyed.isHolder attempt.id = attempt.holds := by
  rw [isHolder, filed.attempt?_eq_some_iff.mpr ⟨member, rfl⟩]
  rfl

/-- The attempts that refer to a lock are those on its key. -/
theorem Filed.queue_eq (filed : keyed.Filed) {lock : LockId}
    (stored : keyed.locks.get? key = some lock) :
    keyed.queue lock = keyed.attempts.filter fun attempt => attempt.key = key := by
  refine List.filter_congr fun attempt member => decide_eq_decide.mpr ?_
  have held := filed.filed attempt member
  constructor
  · rintro rfl
    exact filed.apart _ _ _ held stored
  · rintro rfl
    exact Option.some.inj (held.symm.trans stored)

theorem Filed.unused_of_absent (filed : keyed.Filed) (absent : keyed.locks.get? key = none) :
    ∀ attempt ∈ keyed.attempts, attempt.key ≠ key := by
  rintro attempt member rfl
  rw [filed.filed attempt member] at absent
  cases absent

theorem isFirst_iff : keyed.isFirst attempt = true ↔
    ∃ head rest, keyed.queue attempt.lock = head :: rest ∧ head.id = attempt.id := by
  rw [isFirst, decide_eq_true_iff, Option.map_eq_some_iff]
  simp only [List.head?_eq_some_iff, exists_and_right]

theorem Filed.lock_eq_of_key_eq (filed : keyed.Filed) (member : attempt ∈ keyed.attempts)
    (also : other ∈ keyed.attempts) (same : attempt.key = other.key) :
    attempt.lock = other.lock := by
  have held := filed.filed attempt member
  rw [same, filed.filed other also] at held
  exact (Option.some.inj held).symm

/-- At most one attempt on a key holds. -/
theorem Fair.holder_unique (fair : keyed.Fair) (member : attempt ∈ keyed.attempts)
    (also : other ∈ keyed.attempts) (same : attempt.key = other.key)
    (here : attempt.holds = true) (there : other.holds = true) : attempt = other := by
  obtain ⟨head, rest, line, first⟩ := isFirst_iff.mp (fair.foremost attempt member here)
  obtain ⟨front, tail, queue, leads⟩ := isFirst_iff.mp (fair.foremost other also there)
  rw [← fair.lock_eq_of_key_eq member also same, line] at queue
  obtain ⟨rfl, -⟩ := List.cons.inj queue
  exact fair.eq_of_id_eq member also (first.symm.trans leads)

/-- Somebody is the first on every key that somebody is on. -/
theorem Filed.exists_first (filed : keyed.Filed) (member : attempt ∈ keyed.attempts) :
    ∃ first ∈ keyed.attempts, first.key = attempt.key ∧ keyed.isFirst first = true := by
  have queued : attempt ∈ keyed.queue attempt.lock :=
    List.mem_filter.mpr ⟨member, decide_eq_true rfl⟩
  cases line : keyed.queue attempt.lock with
  | nil =>
      rw [line] at queued
      cases queued
  | cons head rest =>
      have inside := List.mem_filter.mp
        (line ▸ List.mem_cons_self : head ∈ keyed.queue attempt.lock)
      have refers : head.lock = attempt.lock := of_decide_eq_true inside.2
      have held := filed.filed head inside.1
      rw [refers] at held
      exact ⟨head, inside.1, filed.apart _ _ _ held (filed.filed attempt member),
        isFirst_iff.mpr ⟨head, rest, refers ▸ line, rfl⟩⟩

/-! ## Operations keep locks fair -/

/-- What becomes of the locks when an attempt comes: the map holds one for its key, made now if
there was none, and the attempt holds it at once if nobody else is on the key. -/
theorem Filed.lock_eq (filed : keyed.Filed) (key : String) (id : AttemptId) :
    ∃ lock locks made,
      keyed.lock key id =
        { made, locks
          attempts := keyed.attempts ++
            [⟨id, key, lock, (keyed.attempts.filter fun other => other.key = key).isEmpty⟩] } ∧
      (∀ sought, locks.get? sought =
        if sought = key then some lock else keyed.locks.get? sought) ∧
      (∀ other ∈ keyed.attempts, other.key = key → other.lock = lock) ∧
      (∀ sought, keyed.locks.get? sought = some lock → sought = key) ∧
      lock < made ∧ keyed.made ≤ made := by
  cases stored : keyed.locks.get? key with
  | some lock =>
      refine ⟨lock, keyed.locks, keyed.made, ?_, fun sought => ?_, ?_, ?_,
        filed.made key lock stored, Nat.le_refl _⟩
      · simp only [KeyedLocks.lock, stored, filed.queue_eq stored]
      · split
        · rename_i same
          rw [same, stored]
        · rfl
      · rintro other member rfl
        exact Option.some.inj ((filed.filed other member).symm.trans stored)
      · exact fun sought held => filed.apart _ _ lock held stored
  | none =>
      have unused := filed.unused_of_absent stored
      have nobody : (keyed.attempts.filter fun other => other.key = key) = [] :=
        List.filter_eq_nil_iff.mpr fun other member => by simpa using unused other member
      refine ⟨keyed.made, keyed.locks.insert key keyed.made, keyed.made + 1, ?_,
        SortedMap.get?_insert _ _ _, ?_, ?_, Nat.lt_succ_self _, Nat.le_succ _⟩
      · simp only [KeyedLocks.lock, stored, nobody, List.isEmpty_nil]
      · exact fun other member same => absurd same (unused other member)
      · exact fun sought held => absurd (filed.made sought _ held) (Nat.lt_irrefl _)

/-- An attempt with a new name keeps locks fair. -/
theorem Fair.lock (fair : keyed.Fair) (fresh : ∀ other ∈ keyed.attempts, other.id ≠ id) :
    (keyed.lock key id).Fair := by
  obtain ⟨lock, locks, made, equal, stored, same, only, below, grown⟩ := fair.lock_eq key id
  have storedHere : locks.get? key = some lock := (stored key).trans (if_pos rfl)
  rw [equal]
  refine ⟨⟨?_, ?_, ?_, ?_⟩, ?_⟩
  · rw [List.map_append, List.map_singleton, List.nodup_append]
    refine ⟨fair.distinct, List.nodup_singleton _, fun name member new singleton => ?_⟩
    obtain ⟨other, inside, rfl⟩ := List.mem_map.mp member
    rw [List.mem_singleton.mp singleton]
    exact fresh other inside
  · intro other member
    rcases List.mem_append.mp member with old | new
    · rw [stored]
      split
      · rename_i here
        rw [same other old here]
      · exact fair.filed other old
    · obtain rfl := List.mem_singleton.mp new
      exact storedHere
  · intro sought found held
    rw [stored] at held
    split at held
    · exact Option.some.inj held ▸ below
    · exact Nat.lt_of_lt_of_le (fair.made sought found held) grown
  · -- A lock that an earlier key holds is not the one for the key of the newcomer.
    have keyOf (sought : String) (found : LockId) (held : locks.get? sought = some found) :
        (found = lock ∧ sought = key) ∨
          (found ≠ lock ∧ keyed.locks.get? sought = some found) := by
      rw [stored] at held
      split at held
      · rename_i here
        exact .inl ⟨(Option.some.inj held).symm, here⟩
      · rename_i elsewhere
        refine .inr ⟨?_, held⟩
        rintro rfl
        exact elsewhere (only sought held)
    intro left right found here there
    rcases keyOf left found here with ⟨isNew, rfl⟩ | ⟨isOld, before⟩
    · rcases keyOf right found there with ⟨-, rfl⟩ | ⟨isOld, -⟩
      · rfl
      · exact absurd isNew isOld
    · rcases keyOf right found there with ⟨isNew, -⟩ | ⟨-, also⟩
      · exact absurd isNew isOld
      · exact fair.apart left right found before also
  · intro holder member holds
    rw [isFirst_iff, queue, List.filter_append]
    rcases List.mem_append.mp member with old | new
    · obtain ⟨head, rest, line, first⟩ := isFirst_iff.mp (fair.foremost holder old holds)
      rw [queue] at line
      exact ⟨head, _, by rw [line, List.cons_append], first⟩
    · obtain rfl := List.mem_singleton.mp new
      -- The newcomer holds only where nobody else is on its key, so nobody refers to its lock.
      have nobody : (keyed.attempts.filter fun other => other.lock = lock) = [] := by
        refine List.filter_eq_nil_iff.mpr fun other inside refers => ?_
        have onKey := only other.key (of_decide_eq_true refers ▸ fair.filed other inside)
        exact List.filter_eq_nil_iff.mp (List.isEmpty_iff.mp holds) other inside
          (decide_eq_true onKey)
      exact ⟨_, [], by rw [nobody, List.nil_append, List.filter_singleton]; simp, rfl⟩

/-- What a look for the lock makes of an attempt. -/
def noticed (keyed : KeyedLocks) (id : AttemptId) (attempt : LockAttempt) : LockAttempt :=
  if attempt.id = id ∧ keyed.isFirst attempt then { attempt with holds := true } else attempt

theorem attempts_poll (keyed : KeyedLocks) (id : AttemptId) :
    (keyed.poll id).attempts = keyed.attempts.map (keyed.noticed id) := rfl

@[simp]
theorem id_noticed : (keyed.noticed id attempt).id = attempt.id := by
  rw [noticed]; split <;> rfl

@[simp]
theorem key_noticed : (keyed.noticed id attempt).key = attempt.key := by
  rw [noticed]; split <;> rfl

@[simp]
theorem lock_noticed : (keyed.noticed id attempt).lock = attempt.lock := by
  rw [noticed]; split <;> rfl

/-- A look makes a holder only of the attempt that looks, and only if it is the first. -/
theorem holds_noticed : (keyed.noticed id attempt).holds = true ↔
    attempt.holds = true ∨ attempt.id = id ∧ keyed.isFirst attempt = true := by
  rw [noticed]
  split
  · rename_i looks
    exact iff_of_true rfl (.inr looks)
  · rename_i other
    rw [or_iff_left other]

/-- A look moves nobody in any line. -/
theorem queue_poll (keyed : KeyedLocks) (id : AttemptId) (lock : LockId) :
    (keyed.poll id).queue lock = (keyed.queue lock).map (keyed.noticed id) := by
  rw [queue, attempts_poll, List.filter_map, queue]
  exact congrArg _ (List.filter_congr fun other _ => by simp)

theorem Fair.poll (fair : keyed.Fair) (id : AttemptId) : (keyed.poll id).Fair := by
  refine ⟨⟨?_, fun now member => ?_, fair.made, fair.apart⟩, fun now member holds => ?_⟩
  · have names : (keyed.poll id).attempts.map LockAttempt.id =
        keyed.attempts.map LockAttempt.id := by
      rw [attempts_poll, List.map_map]
      exact List.map_congr_left fun other _ => id_noticed
    exact names ▸ fair.distinct
  · obtain ⟨before, inside, rfl⟩ := List.mem_map.mp member
    change keyed.locks.get? (keyed.noticed id before).key = some (keyed.noticed id before).lock
    rw [key_noticed, lock_noticed]
    exact fair.filed before inside
  · obtain ⟨before, inside, rfl⟩ := List.mem_map.mp member
    change (keyed.noticed id before).holds = true at holds
    change (keyed.poll id).isFirst (keyed.noticed id before) = true
    have first : keyed.isFirst before = true :=
      (holds_noticed.mp holds).elim (fair.foremost before inside) And.right
    obtain ⟨head, rest, line, same⟩ := isFirst_iff.mp first
    refine isFirst_iff.mpr ⟨keyed.noticed id head, rest.map (keyed.noticed id), ?_, ?_⟩
    · rw [lock_noticed, queue_poll, line, List.map_cons]
    · rw [id_noticed, id_noticed, same]

/-- A look makes a holder of one that is the first, and leaves holders as they are. -/
theorem Fair.isHolder_poll (fair : keyed.Fair) (member : attempt ∈ keyed.attempts) :
    (keyed.poll attempt.id).isHolder attempt.id = (attempt.holds || keyed.isFirst attempt) := by
  have looked : keyed.noticed attempt.id attempt ∈ (keyed.poll attempt.id).attempts :=
    List.mem_map_of_mem member
  have holder := (fair.poll attempt.id).isHolder_of_mem looked
  rw [id_noticed] at holder
  rw [holder, Bool.eq_iff_iff, holds_noticed, Bool.or_eq_true]
  simp only [true_and]

theorem Fair.withdraw (fair : keyed.Fair) (id : AttemptId) : (keyed.withdraw id).Fair := by
  refine ⟨⟨?_, fun other member => fair.filed other (List.mem_of_mem_filter member), fair.made,
    fair.apart⟩, fun holder member holds => ?_⟩
  · exact fair.distinct.sublist (List.filter_sublist.map _)
  · obtain ⟨inside, stays⟩ := List.mem_filter.mp member
    obtain ⟨head, rest, line, first⟩ := isFirst_iff.mp (fair.foremost holder inside holds)
    refine isFirst_iff.mpr ⟨head, rest.filter fun other => other.id ≠ id, ?_, first⟩
    have thinned : (keyed.withdraw id).queue holder.lock =
        (keyed.queue holder.lock).filter fun other => other.id ≠ id := by
      rw [queue, KeyedLocks.withdraw, queue, List.filter_filter, List.filter_filter]
      exact List.filter_congr fun other _ => Bool.and_comm _ _
    rw [thinned, line, List.filter_cons_of_pos (by rw [first]; exact stays)]

theorem attempts_forget (keyed : KeyedLocks) (key : String) :
    (keyed.forget key).attempts = keyed.attempts := by
  rw [KeyedLocks.forget]
  split
  · split <;> rfl
  · rfl

/-- To forget a key whose lock nobody refers to leaves locks fair. -/
theorem Fair.forget (fair : keyed.Fair) (key : String) : (keyed.forget key).Fair := by
  have foremost (attempt : LockAttempt) (member : attempt ∈ keyed.attempts)
      (holds : attempt.holds = true) : (keyed.forget key).isFirst attempt = true := by
    rw [isFirst, queue, attempts_forget]
    exact fair.foremost attempt member holds
  rw [KeyedLocks.forget] at foremost ⊢
  split
  · rename_i lock stored
    simp only [stored] at foremost
    split
    · rename_i unused
      rw [if_pos unused] at foremost
      rw [fair.queue_eq stored, List.isEmpty_iff, List.filter_eq_nil_iff] at unused
      -- What the map still holds it held before, so only the attempts need a look.
      have kept (sought : String) (found : LockId)
          (held : (keyed.locks.erase key).get? sought = some found) :
          keyed.locks.get? sought = some found := by
        rw [SortedMap.get?_erase] at held
        split at held
        · cases held
        · exact held
      refine ⟨⟨fair.distinct, fun attempt member => ?_, fun sought found held =>
        fair.made sought found (kept sought found held), fun left right found here there =>
        fair.apart left right found (kept left found here) (kept right found there)⟩, foremost⟩
      have elsewhere : attempt.key ≠ key := by simpa using unused attempt member
      rw [SortedMap.get?_erase, if_neg elsewhere]
      exact fair.filed attempt member
    · exact fair
  · exact fair

end KeyedLocks
end JarLedger
