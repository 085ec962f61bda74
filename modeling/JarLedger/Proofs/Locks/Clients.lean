import JarLedger.Proofs.Locks.Fairness
import Mathlib.Logic.Function.Basic

/-!
# Clients of locks

A client needs the lock of one key, or none.  It is away, waits for its lock, or has it.  While
clients use locks as `Serves` says, at most one of them has the lock of a key, and where somebody
waits, there is a client on the same key that has its lock or gets it by looking.
-/

namespace JarLedger
namespace KeyedLocks

/-- How a client stands to the lock of its key. -/
inductive Standing where
  | away
  | waiting
  | having
  deriving DecidableEq, Repr

/-- The attempts are those of the clients that need a lock and are not away, and those of clients
that have their locks have noticed. -/
structure Serves (keyed : KeyedLocks) (key? : AttemptId → Option String)
    (standing : AttemptId → Standing) : Prop where
  fair : keyed.Fair
  onKey : ∀ attempt ∈ keyed.attempts, key? attempt.id = some attempt.key
  present : ∀ id key, key? id = some key →
    (standing id ≠ .away ↔ ∃ attempt ∈ keyed.attempts, attempt.id = id)
  having : ∀ attempt ∈ keyed.attempts, standing attempt.id = .having → attempt.holds = true

theorem serves_fresh (key? : AttemptId → Option String) :
    ({} : KeyedLocks).Serves key? fun _ => .away where
  fair := fair_fresh
  onKey := nofun
  present := by simp
  having := nofun

variable {keyed : KeyedLocks} {key? : AttemptId → Option String}
  {standing : AttemptId → Standing} {id other : AttemptId} {key : String} {next : Standing}

/-! ## Who has a lock -/

theorem Serves.having_unique (serves : keyed.Serves key? standing) (mine : key? id = some key)
    (theirs : key? other = some key) (here : standing id = .having)
    (there : standing other = .having) : id = other := by
  obtain ⟨attempt, member, rfl⟩ := (serves.present id key mine).mp (here ▸ nofun)
  obtain ⟨rival, also, rfl⟩ := (serves.present other key theirs).mp (there ▸ nofun)
  rw [serves.onKey attempt member, ← theirs, serves.onKey rival also] at mine
  rw [serves.fair.holder_unique member also (Option.some.inj mine)
    (serves.having attempt member here) (serves.having rival also there)]

/-- Where somebody waits, there is a client on the same key that need not wait. -/
theorem Serves.exists_first (serves : keyed.Serves key? standing) (mine : key? id = some key)
    (there : standing id ≠ .away) :
    ∃ first, key? first = some key ∧ standing first ≠ .away ∧
      (keyed.poll first).isHolder first = true := by
  obtain ⟨attempt, member, rfl⟩ := (serves.present id key mine).mp there
  obtain ⟨first, inside, same, isFirst⟩ := serves.fair.exists_first member
  have shared : first.key = key :=
    same.trans (Option.some.inj ((serves.onKey attempt member).symm.trans mine))
  have holder : (keyed.poll first.id).isHolder first.id = true := by
    rw [serves.fair.isHolder_poll inside, isFirst, Bool.or_true]
  exact ⟨first.id, shared ▸ serves.onKey first inside,
    (serves.present first.id _ (serves.onKey first inside)).mpr ⟨first, inside, rfl⟩, holder⟩

/-! ## What clients do -/

/-- A client that needs no lock is free to do as it likes. -/
theorem Serves.update_keyless (serves : keyed.Serves key? standing) (needless : key? id = none)
    (next : Standing) : keyed.Serves key? (Function.update standing id next) where
  fair := serves.fair
  onKey := serves.onKey
  present := by
    intro client sought needs
    rw [Function.update_of_ne]
    · exact serves.present client sought needs
    · rintro rfl
      rw [needless] at needs
      cases needs
  having := by
    intro attempt member
    rw [Function.update_of_ne]
    · exact serves.having attempt member
    · rintro rfl
      rw [serves.onKey attempt member] at needless
      cases needless

/-- A client that stays as it stands changes nothing. -/
theorem Serves.update_same (serves : keyed.Serves key? standing) (same : next = standing id) :
    keyed.Serves key? (Function.update standing id next) := by
  rw [same, Function.update_eq_self]
  exact serves

theorem Serves.lock (serves : keyed.Serves key? standing) (needs : key? id = some key)
    (away : standing id = .away) :
    (keyed.lock key id).Serves key? (Function.update standing id .waiting) := by
  have fresh (other : LockAttempt) (member : other ∈ keyed.attempts) : other.id ≠ id := fun same =>
    (serves.present id key needs).mpr ⟨other, member, same⟩ away
  obtain ⟨lock, locks, made, equal, -⟩ := serves.fair.lock_eq key id
  refine ⟨serves.fair.lock fresh, ?_, ?_, ?_⟩
  · intro attempt member
    rw [equal] at member
    rcases List.mem_append.mp member with old | new
    · exact serves.onKey attempt old
    · rw [List.mem_singleton.mp new]
      exact needs
  · intro client sought wants
    rw [Function.update_apply, equal]
    split
    · rename_i same
      exact iff_of_true nofun ⟨_, List.mem_append_right _ List.mem_cons_self, same.symm⟩
    · rename_i different
      rw [serves.present client sought wants]
      simp [or_and_right, exists_or, Ne.symm different]
  · intro attempt member
    rw [equal] at member
    rcases List.mem_append.mp member with old | new
    · rw [Function.update_of_ne (fresh attempt old)]
      exact serves.having attempt old
    · rw [List.mem_singleton.mp new, Function.update_self]
      nofun

theorem Serves.poll (serves : keyed.Serves key? standing) (id : AttemptId) :
    (keyed.poll id).Serves key? standing := by
  refine ⟨serves.fair.poll id, ?_, ?_, ?_⟩
  · rw [attempts_poll, List.forall_mem_map]
    intro attempt member
    rw [id_noticed, key_noticed]
    exact serves.onKey attempt member
  · intro client sought needs
    rw [serves.present client sought needs, attempts_poll]
    simp
  · rw [attempts_poll, List.forall_mem_map]
    intro attempt member has
    rw [id_noticed] at has
    exact holds_noticed.mpr (.inl (serves.having attempt member has))

/-- A client has its lock from when it notices. -/
theorem Serves.notice (serves : keyed.Serves key? standing) (waits : standing id ≠ .away)
    (holds : keyed.isHolder id = true) :
    keyed.Serves key? (Function.update standing id .having) where
  fair := serves.fair
  onKey := serves.onKey
  present := by
    intro client sought needs
    rw [← serves.present client sought needs, Function.update_apply]
    split
    · rename_i same
      exact iff_of_true nofun (same ▸ waits)
    · rfl
  having := by
    intro attempt member
    rw [Function.update_apply]
    split
    · rename_i same
      rw [← same, serves.fair.isHolder_of_mem member] at holds
      exact fun _ => holds
    · exact serves.having attempt member

theorem Serves.withdraw (serves : keyed.Serves key? standing) (id : AttemptId) :
    (keyed.withdraw id).Serves key? (Function.update standing id .away) := by
  have stays {attempt : LockAttempt} :
      attempt ∈ (keyed.withdraw id).attempts ↔ attempt ∈ keyed.attempts ∧ attempt.id ≠ id := by
    rw [KeyedLocks.withdraw, List.mem_filter, decide_eq_true_iff]
  refine ⟨serves.fair.withdraw id, ?_, ?_, ?_⟩
  · exact fun attempt member => serves.onKey attempt (stays.mp member).1
  · intro client sought needs
    rw [Function.update_apply]
    split
    · rename_i same
      refine iff_of_false (· rfl) ?_
      rintro ⟨attempt, member, rfl⟩
      exact (stays.mp member).2 same
    · rename_i different
      rw [serves.present client sought needs]
      refine exists_congr fun attempt => ?_
      rw [stays, and_assoc]
      exact and_congr_right fun _ => ⟨fun same => ⟨same ▸ different, same⟩, And.right⟩
  · intro attempt member
    rw [Function.update_of_ne (stays.mp member).2]
    exact serves.having attempt (stays.mp member).1

theorem Serves.forget (serves : keyed.Serves key? standing) (key : String) :
    (keyed.forget key).Serves key? standing := by
  refine ⟨serves.fair.forget key, ?_, ?_, ?_⟩ <;> rw [attempts_forget]
  · exact serves.onKey
  · exact serves.present
  · exact serves.having

theorem Serves.drop (serves : keyed.Serves key? standing) (id : AttemptId) :
    (keyed.drop id).Serves key? (Function.update standing id .away) := by
  have withdrawn := serves.withdraw id
  rw [KeyedLocks.drop]
  split
  · rename_i absent
    have unchanged : keyed.withdraw id = keyed := by
      rw [KeyedLocks.withdraw, List.filter_eq_self.mpr]
      intro attempt member
      simpa using List.find?_eq_none.mp absent attempt member
    rwa [unchanged] at withdrawn
  · split
    · exact withdrawn.forget _
    · exact withdrawn

end KeyedLocks
end JarLedger
