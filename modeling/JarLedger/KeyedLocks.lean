import JarLedger.SortedMap

/-!
# Locks by key

Locks are made when a key is first asked for, and kept in a map while they are in use.  Each attempt
to get the lock of a key refers to the lock that the map held when it came.  Of the attempts that
refer to one lock the earliest has it, and becomes a holder when it notices.  When a holder lets go,
the map forgets the key if no attempt refers to the lock that it holds for it; an attempt that gives
up before it is a holder leaves the map as it is.
-/

namespace JarLedger

/-- What tells one lock from others. -/
abbrev LockId : Type := Nat

/-- What tells one attempt from others. -/
abbrev AttemptId : Type := Nat

/-- An attempt to get a lock. -/
structure LockAttempt where
  id : AttemptId
  key : String
  /-- The lock that the attempt refers to. -/
  lock : LockId
  /-- Whether the attempt has noticed that it has the lock. -/
  holds : Bool
  deriving DecidableEq, Repr

/-- The locks in use and the attempts to get them. -/
structure KeyedLocks where
  /-- How many locks were made. -/
  made : Nat := 0
  /-- The lock of each key in use. -/
  locks : SortedMap LockId := SortedMap.empty
  /-- The attempts that are neither over nor given up, the earliest first. -/
  attempts : List LockAttempt := []

namespace KeyedLocks

/-- How many keys are remembered. -/
def size (keyed : KeyedLocks) : Nat := keyed.locks.size

/-- Whether no key is remembered. -/
def isEmpty (keyed : KeyedLocks) : Bool := keyed.locks.isEmpty

/-- The attempts that refer to a lock, the earliest first. -/
def queue (keyed : KeyedLocks) (lock : LockId) : List LockAttempt :=
  keyed.attempts.filter fun attempt => attempt.lock = lock

/-- The attempt of a name. -/
def attempt? (keyed : KeyedLocks) (id : AttemptId) : Option LockAttempt :=
  keyed.attempts.find? fun attempt => attempt.id = id

/-- Start an attempt, with a new lock if the key is not remembered.  It holds the lock at once if no
other attempt refers to it. -/
def lock (keyed : KeyedLocks) (key : String) (id : AttemptId) : KeyedLocks :=
  match keyed.locks.get? key with
  | some lock =>
      { keyed with
        attempts := keyed.attempts ++ [⟨id, key, lock, (keyed.queue lock).isEmpty⟩] }
  | none =>
      { made := keyed.made + 1
        locks := keyed.locks.insert key keyed.made
        attempts := keyed.attempts ++ [⟨id, key, keyed.made, true⟩] }

/-- Whether an attempt has the lock that it refers to. -/
def isFirst (keyed : KeyedLocks) (attempt : LockAttempt) : Bool :=
  ((keyed.queue attempt.lock).head?.map LockAttempt.id) = some attempt.id

/-- Let an attempt look whether it has its lock. -/
def poll (keyed : KeyedLocks) (id : AttemptId) : KeyedLocks :=
  { keyed with
    attempts := keyed.attempts.map fun attempt =>
      if attempt.id = id ∧ keyed.isFirst attempt then { attempt with holds := true } else attempt }

/-- Take an attempt out. -/
def withdraw (keyed : KeyedLocks) (id : AttemptId) : KeyedLocks :=
  { keyed with attempts := keyed.attempts.filter fun attempt => attempt.id ≠ id }

/-- Forget a key if no attempt refers to its lock. -/
def forget (keyed : KeyedLocks) (key : String) : KeyedLocks :=
  match keyed.locks.get? key with
  | some lock =>
      if (keyed.queue lock).isEmpty then { keyed with locks := keyed.locks.erase key } else keyed
  | none => keyed

/-- End an attempt: a holder lets go of its lock, any other gives up. -/
def drop (keyed : KeyedLocks) (id : AttemptId) : KeyedLocks :=
  match keyed.attempt? id with
  | none => keyed
  | some attempt =>
      if attempt.holds then (keyed.withdraw id).forget attempt.key else keyed.withdraw id

end KeyedLocks
end JarLedger
