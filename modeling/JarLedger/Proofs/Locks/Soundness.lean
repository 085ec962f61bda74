import JarLedger.Proofs.Locks.Fairness

/-!
# Sound locks

As long as attempts are named in the order in which they come, a line is in the order of its names,
so the first in it is the one with the least name (`Sound`).  Such locks are fair, and every
operation keeps the order of names, so it keeps locks sound.
-/

namespace JarLedger
namespace KeyedLocks

/-- What holds of all locks that operations lead to. -/
structure Sound (keyed : KeyedLocks) : Prop where
  /-- Attempts are named in the order in which they came. -/
  ascending : keyed.attempts.Pairwise fun left right => left.id < right.id
  /-- Every attempt refers to the lock that the map holds for its key. -/
  filed : ∀ attempt ∈ keyed.attempts, keyed.locks.get? attempt.key = some attempt.lock
  /-- The locks in the map were made. -/
  made : ∀ key lock, keyed.locks.get? key = some lock → lock < keyed.made
  /-- No lock belongs to two keys. -/
  apart : ∀ left right lock, keyed.locks.get? left = some lock →
    keyed.locks.get? right = some lock → left = right
  /-- Nobody on its key is before a holder. -/
  foremost : ∀ attempt ∈ keyed.attempts, attempt.holds = true →
    ∀ other ∈ keyed.attempts, other.key = attempt.key → attempt.id ≤ other.id

theorem sound_fresh : ({} : KeyedLocks).Sound where
  ascending := List.Pairwise.nil
  filed := nofun
  made := nofun
  apart := nofun
  foremost := nofun

variable {keyed : KeyedLocks} {attempt : LockAttempt} {id : AttemptId} {key : String}

/-! ## Sound locks are fair -/

theorem Sound.toFiled (sound : keyed.Sound) : keyed.Filed where
  distinct := List.pairwise_map.mpr (sound.ascending.imp Nat.ne_of_lt)
  filed := sound.filed
  made := sound.made
  apart := sound.apart

/-- In a list of ascending names the first one is the least. -/
theorem head?_eq_iff_of_ascending {attempts : List LockAttempt}
    (ascending : attempts.Pairwise fun left right => left.id < right.id)
    (member : attempt ∈ attempts) :
    attempts.head?.map LockAttempt.id = some attempt.id ↔
      ∀ other ∈ attempts, attempt.id ≤ other.id := by
  cases attempts with
  | nil => cases member
  | cons head rest =>
      rw [List.pairwise_cons] at ascending
      simp only [List.head?_cons, Option.map_some, Option.some.injEq, List.forall_mem_cons]
      constructor
      · intro same
        exact ⟨Nat.le_of_eq same.symm,
          fun other inside => Nat.le_of_lt (same ▸ ascending.1 other inside)⟩
      · rintro ⟨least, -⟩
        rcases List.mem_cons.mp member with rfl | inside
        · rfl
        · exact absurd least (Nat.not_le_of_lt (ascending.1 attempt inside))

/-- An attempt is the first in its line if nobody on its key has a lesser name. -/
theorem Filed.isFirst_iff_of_ascending (filed : keyed.Filed)
    (ascending : keyed.attempts.Pairwise fun left right => left.id < right.id)
    (member : attempt ∈ keyed.attempts) :
    keyed.isFirst attempt = true ↔
      ∀ other ∈ keyed.attempts, other.key = attempt.key → attempt.id ≤ other.id := by
  rw [isFirst, decide_eq_true_iff, filed.queue_eq (filed.filed attempt member),
    head?_eq_iff_of_ascending (ascending.filter _)
      (List.mem_filter.mpr ⟨member, decide_eq_true rfl⟩)]
  simp only [List.mem_filter, decide_eq_true_iff, and_imp]

/-- An attempt has the lock of its key if nobody on the key is before it. -/
theorem Sound.isFirst_iff (sound : keyed.Sound) (member : attempt ∈ keyed.attempts) :
    keyed.isFirst attempt = true ↔
      ∀ other ∈ keyed.attempts, other.key = attempt.key → attempt.id ≤ other.id :=
  sound.toFiled.isFirst_iff_of_ascending sound.ascending member

theorem Sound.fair (sound : keyed.Sound) : keyed.Fair where
  toFiled := sound.toFiled
  foremost := fun attempt member holds =>
    (sound.isFirst_iff member).mpr (sound.foremost attempt member holds)

/-- Fair locks are sound as long as names come in order. -/
theorem Fair.sound (fair : keyed.Fair)
    (ascending : keyed.attempts.Pairwise fun left right => left.id < right.id) : keyed.Sound where
  ascending := ascending
  filed := fair.filed
  made := fair.made
  apart := fair.apart
  foremost := fun attempt member holds =>
    (fair.isFirst_iff_of_ascending ascending member).mp (fair.foremost attempt member holds)

/-! ## Operations keep locks sound -/

/-- An attempt that comes last keeps locks sound. -/
theorem Sound.lock (sound : keyed.Sound) (last : ∀ other ∈ keyed.attempts, other.id < id) :
    (keyed.lock key id).Sound := by
  refine (sound.fair.lock fun other member => Nat.ne_of_lt (last other member)).sound ?_
  obtain ⟨lock, locks, made, equal, -⟩ := sound.toFiled.lock_eq key id
  rw [equal]
  refine List.pairwise_append.mpr ⟨sound.ascending, List.pairwise_singleton _ _, ?_⟩
  intro other member newest singleton
  rw [List.mem_singleton.mp singleton]
  exact last other member

/-- A look changes nothing, or makes a holder of one that waits and has nobody on its key before
it. -/
theorem Sound.poll_cases (sound : keyed.Sound) (id : AttemptId) :
    (keyed.poll id).attempts = keyed.attempts ∨
      ∃ earlier attempt later, keyed.attempts = earlier ++ attempt :: later ∧
        (keyed.poll id).attempts = earlier ++ { attempt with holds := true } :: later ∧
        attempt.holds = false ∧ ∀ other ∈ earlier, other.key ≠ attempt.key := by
  by_cases unheeded : ∀ attempt ∈ keyed.attempts, attempt.id = id → keyed.isFirst attempt = true →
      attempt.holds = true
  · refine .inl ((List.map_congr_left fun attempt member => ?_).trans (List.map_id _))
    change keyed.noticed id attempt = attempt
    rw [noticed]
    split
    · rename_i looks
      have holds := unheeded attempt member looks.1 looks.2
      rw [← holds]
    · rfl
  · push Not at unheeded
    obtain ⟨attempt, member, rfl, first, waits⟩ := unheeded
    obtain ⟨earlier, later, split⟩ := List.append_of_mem member
    have ascending := sound.ascending
    rw [split, List.pairwise_append, List.pairwise_cons] at ascending
    obtain ⟨-, ⟨after, -⟩, before⟩ := ascending
    -- Names are distinct, so the look passes over all others.
    have others (other : LockAttempt) (different : other.id ≠ attempt.id) :
        keyed.noticed attempt.id other = other := if_neg fun looks => different looks.1
    refine .inr ⟨earlier, attempt, later, split, ?_, Bool.not_eq_true _ ▸ waits, ?_⟩
    · rw [attempts_poll, split, List.map_append, List.map_cons]
      congr 1
      · refine (List.map_congr_left fun other inside => ?_).trans (List.map_id _)
        exact others other (Nat.ne_of_lt (before other inside attempt List.mem_cons_self))
      · congr 1
        · exact if_pos ⟨rfl, first⟩
        · refine (List.map_congr_left fun other inside => ?_).trans (List.map_id _)
          exact others other (Nat.ne_of_gt (after other inside))
    · intro other inside same
      have least := (sound.isFirst_iff member).mp first other
        (split ▸ List.mem_append_left _ inside) same
      exact absurd least (Nat.not_le_of_lt (before other inside attempt List.mem_cons_self))

theorem Sound.poll (sound : keyed.Sound) (id : AttemptId) : (keyed.poll id).Sound := by
  refine (sound.fair.poll id).sound (List.pairwise_map.mpr (sound.ascending.imp fun less => ?_))
  change (keyed.noticed id _).id < (keyed.noticed id _).id
  rwa [id_noticed, id_noticed]

theorem Sound.withdraw (sound : keyed.Sound) (id : AttemptId) : (keyed.withdraw id).Sound :=
  (sound.fair.withdraw id).sound (sound.ascending.filter _)

/-- To forget a key whose lock nobody refers to leaves locks sound. -/
theorem Sound.forget (sound : keyed.Sound) (key : String) : (keyed.forget key).Sound :=
  (sound.fair.forget key).sound (attempts_forget keyed key ▸ sound.ascending)

theorem Sound.drop (sound : keyed.Sound) (id : AttemptId) : (keyed.drop id).Sound := by
  rw [KeyedLocks.drop]
  split
  · exact sound
  · split
    · exact (sound.withdraw id).forget _
    · exact sound.withdraw id

end KeyedLocks
end JarLedger
