import JarLedger.Proofs.Locks.Traffic
import JarLedger.Proofs.SortedMap

/-!
# Keys that are remembered

A key in use is always remembered.  Once nobody is on a key any more, it depends on how the last
attempt on it ended.  A holder looks after the key when it has let go of the lock; one that is given
up does not, though it may have been handed the lock and be the last to refer to it.  So a key is
remembered exactly if it is in use or nobody looked after it since the last attempt on it ended
(`Upkeep.run_remembers_iff`).
-/

namespace JarLedger

/-- What bears on whether a key is forgotten. -/
inductive UpkeepNote where
  /-- An attempt on a key ended. -/
  | ended (key : String)
  /-- The map looked whether anybody refers to the lock of a key. -/
  | swept (key : String)
  deriving DecidableEq, Repr

/-- The key of a note. -/
def UpkeepNote.key : UpkeepNote → String
  | .ended key => key
  | .swept key => key

namespace KeyedLocks

/-- What an event does about keys, the last first. -/
def notes (keyed : KeyedLocks) : LockEvent → List UpkeepNote
  | .drop id =>
      match keyed.attempt? id with
      | none => []
      | some attempt =>
          if attempt.holds then [.swept attempt.key, .ended attempt.key] else [.ended attempt.key]
  | .release id =>
      match keyed.attempt? id with
      | none => []
      | some attempt => if attempt.holds then [.ended attempt.key] else []
  | .sweep key => [.swept key]
  | .lock _ => []
  | .poll _ => []

end KeyedLocks

/-- The attempts that came and went, and what was done about their keys. -/
structure Upkeep where
  traffic : Traffic := {}
  /-- What was done about keys, the last first. -/
  notes : List UpkeepNote := []

namespace Upkeep

open KeyedLocks

/-- Let something happen. -/
def step (upkeep : Upkeep) (event : LockEvent) : Upkeep where
  traffic := upkeep.traffic.step event
  notes := upkeep.traffic.keyed.notes event ++ upkeep.notes

/-- Let events happen one after the other. -/
def run (upkeep : Upkeep) (events : List LockEvent) : Upkeep := events.foldl step upkeep

/-- What was done about a key last. -/
def last? (notes : List UpkeepNote) (key : String) : Option UpkeepNote :=
  notes.find? fun note => note.key = key

/-- The keys that a map holds are those in use and those that nobody looked after since the last
attempt on them ended. -/
def Remembers (keyed : KeyedLocks) (notes : List UpkeepNote) : Prop :=
  ∀ key, keyed.locks.contains key = true ↔
    (∃ attempt ∈ keyed.attempts, attempt.key = key) ∨ last? notes key = some (.ended key)

variable {keyed : KeyedLocks} {notes : List UpkeepNote} {attempt : LockAttempt}

theorem last?_cons (note : UpkeepNote) (key : String) :
    last? (note :: notes) key = if note.key = key then some note else last? notes key := by
  rw [last?, List.find?_cons]
  split <;> simp_all [last?]

/-! ## What becomes of a key -/

theorem remembers_fresh : Remembers {} [] := by
  intro key
  simp [last?, SortedMap.contains, SortedMap.get?_empty]

/-- An attempt that comes has its key remembered, and no other key is touched. -/
theorem Remembers.lock (remembers : Remembers keyed notes) (sound : keyed.Sound) (key : String)
    (id : AttemptId) : Remembers (keyed.lock key id) notes := by
  obtain ⟨lock, locks, made, equal, stored, -⟩ := sound.toFiled.lock_eq key id
  intro sought
  rw [equal, SortedMap.contains, stored]
  by_cases same : sought = key
  · rw [if_pos same]
    exact iff_of_true rfl (.inl ⟨_, List.mem_append_right _ List.mem_cons_self, same.symm⟩)
  · rw [if_neg same, ← SortedMap.contains, remembers sought]
    simp only [List.mem_append, List.mem_singleton, or_and_right, exists_or, exists_eq_left,
      or_iff_left (Ne.symm same)]

/-- A look changes neither the map nor who is on a key. -/
theorem Remembers.poll (remembers : Remembers keyed notes) (id : AttemptId) :
    Remembers (keyed.poll id) notes := by
  intro sought
  rw [attempts_poll]
  simp only [List.mem_map, exists_exists_and_eq_and, key_noticed]
  exact remembers sought

/-- The map keeps the key of an attempt that goes, whether or not somebody else is on it. -/
theorem Remembers.withdraw (remembers : Remembers keyed notes) (sound : keyed.Sound)
    (member : attempt ∈ keyed.attempts) :
    Remembers (keyed.withdraw attempt.id) (.ended attempt.key :: notes) := by
  intro sought
  rw [last?_cons, UpkeepNote.key]
  by_cases same : attempt.key = sought
  · subst same
    have held : keyed.locks.contains attempt.key = true :=
      (SortedMap.contains_iff _ _).mpr ⟨_, sound.filed attempt member⟩
    rw [if_pos rfl]
    exact iff_of_true held (.inr rfl)
  · rw [if_neg same]
    refine (remembers sought).trans (or_congr_left (exists_congr fun other => ?_))
    rw [KeyedLocks.withdraw, List.mem_filter, decide_eq_true_iff]
    constructor
    · rintro ⟨inside, here⟩
      refine ⟨⟨inside, fun equal => ?_⟩, here⟩
      exact same (sound.toFiled.eq_of_id_eq inside member equal ▸ here)
    · rintro ⟨⟨inside, -⟩, here⟩
      exact ⟨inside, here⟩

/-- The map that looks after a key holds it exactly if it is in use. -/
theorem Remembers.forget (remembers : Remembers keyed notes) (sound : keyed.Sound)
    (key : String) : Remembers (keyed.forget key) (.swept key :: notes) := by
  intro sought
  rw [last?_cons, UpkeepNote.key, KeyedLocks.attempts_forget]
  by_cases same : key = sought
  · subst same
    rw [if_pos rfl, or_iff_left (by simp)]
    constructor
    · intro held
      rw [KeyedLocks.forget] at held
      cases stored : keyed.locks.get? key with
      | none => simp [stored, SortedMap.contains] at held
      | some lock =>
          simp only [stored] at held
          split at held
          · simp [SortedMap.contains, SortedMap.get?_erase] at held
          · rename_i used
            rw [sound.toFiled.queue_eq stored, List.isEmpty_iff, List.filter_eq_nil_iff] at used
            simpa using used
    · rintro ⟨attempt, member, rfl⟩
      exact (SortedMap.contains_iff _ _).mpr ⟨_, (sound.forget attempt.key).filed attempt
        (by rwa [KeyedLocks.attempts_forget])⟩
  · rw [if_neg same, ← remembers sought, KeyedLocks.forget]
    split
    · split
      · rw [SortedMap.contains, SortedMap.get?_erase, if_neg (Ne.symm same), ← SortedMap.contains]
      · rfl
    · rfl

/-! ## Runs -/

/-- What happens to attempts is put on note as far as it bears on their keys. -/
theorem Remembers.act (remembers : Remembers keyed notes) (sound : keyed.Sound)
    (newcomer : AttemptId) (event : LockEvent) :
    Remembers (keyed.act newcomer event) (keyed.notes event ++ notes) := by
  cases event with
  | lock key => exact remembers.lock sound key newcomer
  | poll id => exact remembers.poll id
  | sweep key => exact remembers.forget sound key
  | release id =>
      cases found : keyed.attempt? id with
      | none => simpa [KeyedLocks.act, KeyedLocks.notes, isHolder, found] using remembers
      | some attempt =>
          obtain ⟨member, rfl⟩ := sound.toFiled.attempt?_eq_some_iff.mp found
          cases holds : attempt.holds with
          | true =>
              simpa [KeyedLocks.act, KeyedLocks.notes, isHolder, found, holds] using
                remembers.withdraw sound member
          | false =>
              simpa [KeyedLocks.act, KeyedLocks.notes, isHolder, found, holds] using remembers
  | drop id =>
      cases found : keyed.attempt? id with
      | none => simpa [KeyedLocks.act, KeyedLocks.notes, KeyedLocks.drop, found] using remembers
      | some attempt =>
          obtain ⟨member, rfl⟩ := sound.toFiled.attempt?_eq_some_iff.mp found
          have gone := remembers.withdraw sound member
          cases holds : attempt.holds with
          | true =>
              simpa [KeyedLocks.act, KeyedLocks.notes, KeyedLocks.drop, found, holds] using
                gone.forget (sound.withdraw attempt.id) attempt.key
          | false =>
              simpa [KeyedLocks.act, KeyedLocks.notes, KeyedLocks.drop, found, holds] using gone

variable {upkeep : Upkeep}

theorem remembers_run (orderly : upkeep.traffic.Orderly)
    (remembers : Remembers upkeep.traffic.keyed upkeep.notes) (events : List LockEvent) :
    Remembers (upkeep.run events).traffic.keyed (upkeep.run events).notes := by
  induction events generalizing upkeep with
  | nil => exact remembers
  | cons event rest ih =>
      exact ih (orderly.step event) (remembers.act orderly.sound upkeep.traffic.came.length event)

/-- Whatever attempts do, and whatever happens between the two halves of a holder's end: the map
remembers a key exactly if somebody is on it, or the last attempt on it ended and nobody looked
after the key since, which is so if that attempt was given up while it waited. -/
theorem run_remembers_iff (events : List LockEvent) (key : String) :
    let upkeep := run {} events
    upkeep.traffic.keyed.locks.contains key = true ↔
      (∃ attempt ∈ upkeep.traffic.keyed.attempts, attempt.key = key) ∨
        last? upkeep.notes key = some (.ended key) :=
  remembers_run Traffic.orderly_fresh remembers_fresh events key

/-- The second of two attempts is given up after the first has handed it the lock, and before it has
noticed: nobody is left, and the map goes on holding the key. -/
theorem run_outlives_attempts :
    let keyed := (run {} [.lock "k", .lock "k", .drop 0, .drop 1]).traffic.keyed
    keyed.locks.contains "k" = true ∧ ¬ ∃ attempt ∈ keyed.attempts, attempt.key = "k" := by
  decide

end Upkeep
end JarLedger
