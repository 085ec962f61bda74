import JarLedger.Proofs.Locks.Soundness

/-!
# Attempts that come and go

Attempts to get locks come, look, hold, end and are given up in any order.  A holder may end in two
steps with anything in between: it lets go of its lock, and later the map forgets the key if nobody
refers to the lock then.  On each key the attempts get the lock one at a time and in the order in
which they came, those left out that were given up (`Traffic.run_exclusive`).
-/

namespace JarLedger

/-- What may happen to attempts. -/
inductive LockEvent where
  /-- The next attempt comes, and looks for the lock of a key. -/
  | lock (key : String)
  /-- An attempt looks again whether it has its lock. -/
  | poll (id : AttemptId)
  /-- An attempt ends: a holder lets go and sweeps, any other gives up. -/
  | drop (id : AttemptId)
  /-- A holder lets go, and has yet to sweep. -/
  | release (id : AttemptId)
  /-- A key is forgotten if nobody refers to its lock. -/
  | sweep (key : String)

/-- The key of an attempt that comes. -/
def LockEvent.key? : LockEvent → Option String
  | .lock key => some key
  | _ => none

namespace KeyedLocks

/-- Let something happen; an attempt that comes gets a name. -/
def act (keyed : KeyedLocks) (newcomer : AttemptId) : LockEvent → KeyedLocks
  | .lock key => keyed.lock key newcomer
  | .poll id => keyed.poll id
  | .drop id => keyed.drop id
  | .release id => if keyed.isHolder id then keyed.withdraw id else keyed
  | .sweep key => keyed.forget key

/-- The attempts that are there now and were not before. -/
def newcomers (before after : KeyedLocks) : List LockAttempt :=
  after.attempts.filter fun attempt => (before.attempt? attempt.id).isNone

/-- The attempts that hold now and did not before. -/
def newHolders (before after : KeyedLocks) : List LockAttempt :=
  after.attempts.filter fun attempt => attempt.holds && !before.isHolder attempt.id

/-- The attempts that waited before and are not there any more. -/
def quitters (before after : KeyedLocks) : List LockAttempt :=
  before.attempts.filter fun attempt => !attempt.holds && (after.attempt? attempt.id).isNone

/-- The attempts on a key that do not hold yet, the earliest first. -/
def waiting (keyed : KeyedLocks) (key : String) : List LockAttempt :=
  keyed.attempts.filter fun attempt => attempt.key = key && !attempt.holds

/-- Whether an attempt holds its lock or has been handed it. -/
def has (keyed : KeyedLocks) (attempt : LockAttempt) : Bool :=
  attempt.holds || keyed.isFirst attempt

end KeyedLocks

namespace KeyedLocks

variable {before after : KeyedLocks} {attempt : LockAttempt}

theorem isNone_attempt? {keyed : KeyedLocks} {id : AttemptId} :
    (keyed.attempt? id).isNone = true ↔ ∀ other ∈ keyed.attempts, other.id ≠ id := by
  simp [attempt?]

theorem newcomers_eq_nil (old : ∀ now ∈ after.attempts, ∃ other ∈ before.attempts,
    other.id = now.id) : newcomers before after = [] := by
  refine List.filter_eq_nil_iff.mpr fun now member => ?_
  rw [isNone_attempt?]
  intro absent
  obtain ⟨other, inside, same⟩ := old now member
  exact absent other inside same

theorem newHolders_eq_nil (sound : before.Sound) (old : ∀ now ∈ after.attempts,
    now.holds = true → ∃ other ∈ before.attempts, other.id = now.id ∧ other.holds = true) :
    newHolders before after = [] := by
  refine List.filter_eq_nil_iff.mpr fun now member => ?_
  intro new
  rw [Bool.and_eq_true, Bool.not_eq_true'] at new
  obtain ⟨other, inside, same, holds⟩ := old now member new.1
  rw [← same, sound.toFiled.isHolder_of_mem inside, holds] at new
  cases new.2

theorem quitters_eq_nil (kept : ∀ other ∈ before.attempts, ∃ now ∈ after.attempts,
    now.id = other.id) : quitters before after = [] := by
  refine List.filter_eq_nil_iff.mpr fun other member => ?_
  rw [Bool.and_eq_true, isNone_attempt?]
  rintro ⟨-, absent⟩
  obtain ⟨now, inside, same⟩ := kept other member
  exact absent now inside same

section Appended

variable {new : LockAttempt}

theorem newcomers_append (fresh : ∀ other ∈ before.attempts, other.id ≠ new.id)
    (appended : after.attempts = before.attempts ++ [new]) : newcomers before after = [new] := by
  have nobody : newcomers before before = [] :=
    newcomers_eq_nil fun now member => ⟨now, member, rfl⟩
  have isNew : (before.attempt? new.id).isNone = true := isNone_attempt?.mpr fresh
  rw [newcomers, appended, List.filter_append, ← newcomers, nobody, List.nil_append,
    List.filter_singleton, isNew, cond_true]

theorem newHolders_append (sound : before.Sound)
    (fresh : ∀ other ∈ before.attempts, other.id ≠ new.id)
    (appended : after.attempts = before.attempts ++ [new]) :
    newHolders before after = [new].filter LockAttempt.holds := by
  have nobody : newHolders before before = [] :=
    newHolders_eq_nil sound fun now member holds => ⟨now, member, rfl, holds⟩
  have unknown : before.isHolder new.id = false := by
    rw [isHolder, Option.isNone_iff_eq_none.mp (isNone_attempt?.mpr fresh)]
    rfl
  rw [newHolders, appended, List.filter_append, ← newHolders, nobody, List.nil_append,
    List.filter_singleton, List.filter_singleton, unknown, Bool.not_false, Bool.and_true]

theorem quitters_append (appended : after.attempts = before.attempts ++ [new]) :
    quitters before after = [] :=
  quitters_eq_nil fun other member => ⟨other, appended ▸ List.mem_append_left _ member, rfl⟩

end Appended

end KeyedLocks

/-- An attempt with its key. -/
def LockAttempt.label (attempt : LockAttempt) : AttemptId × String := (attempt.id, attempt.key)

/-- The locks, and what became of the attempts so far. -/
structure Traffic where
  keyed : KeyedLocks := {}
  /-- The attempts that came, in the order in which they first looked for their locks. -/
  came : List (AttemptId × String) := []
  /-- The attempts that became holders, in the order in which they did. -/
  obtained : List (AttemptId × String) := []
  /-- The attempts that were given up while they waited. -/
  abandoned : List AttemptId := []

namespace Traffic

open KeyedLocks

/-- Put on record who came, became a holder or gave up when the locks became what they are. -/
def record (traffic : Traffic) (after : KeyedLocks) : Traffic where
  keyed := after
  came := traffic.came ++ (newcomers traffic.keyed after).map LockAttempt.label
  obtained := traffic.obtained ++ (newHolders traffic.keyed after).map LockAttempt.label
  abandoned := traffic.abandoned ++ (quitters traffic.keyed after).map LockAttempt.id

/-- Let something happen.  Attempts are named by how many came before. -/
def step (traffic : Traffic) (event : LockEvent) : Traffic :=
  traffic.record (traffic.keyed.act traffic.came.length event)

/-- Let events happen one after the other. -/
def run (traffic : Traffic) (events : List LockEvent) : Traffic := events.foldl step traffic

/-- The attempts on a key that came and were not given up while they waited. -/
def steadfast (traffic : Traffic) (key : String) : List (AttemptId × String) :=
  traffic.came.filter fun entry => entry.2 = key && entry.1 ∉ traffic.abandoned

/-- The attempts on a key that became holders. -/
def obtainedOn (traffic : Traffic) (key : String) : List (AttemptId × String) :=
  traffic.obtained.filter fun entry => entry.2 = key

/-- What holds in all traffic that events lead to. -/
structure Orderly (traffic : Traffic) : Prop where
  sound : traffic.keyed.Sound
  /-- Attempts are numbered as they come. -/
  numbered : traffic.came.map Prod.fst = List.range traffic.came.length
  /-- The attempts that are not over came. -/
  present : ∀ attempt ∈ traffic.keyed.attempts, attempt.label ∈ traffic.came
  /-- The attempts that were given up came. -/
  left : ∀ id ∈ traffic.abandoned, id < traffic.came.length
  /-- On each key the holders so far and those that wait stand in the order in which they came. -/
  order : ∀ key, traffic.steadfast key =
    traffic.obtainedOn key ++ (traffic.keyed.waiting key).map LockAttempt.label

theorem orderly_fresh : ({} : Traffic).Orderly where
  sound := sound_fresh
  numbered := rfl
  present := nofun
  left := nofun
  order := fun _ => rfl

variable {traffic : Traffic} {after : KeyedLocks}

theorem Orderly.lt_of_mem_came (orderly : traffic.Orderly) {entry : AttemptId × String}
    (member : entry ∈ traffic.came) : entry.1 < traffic.came.length := by
  have named : entry.1 ∈ traffic.came.map Prod.fst := List.mem_map.mpr ⟨entry, member, rfl⟩
  rw [orderly.numbered] at named
  exact List.mem_range.mp named

theorem Orderly.lt_of_mem_attempts (orderly : traffic.Orderly) {attempt : LockAttempt}
    (member : attempt ∈ traffic.keyed.attempts) : attempt.id < traffic.came.length :=
  orderly.lt_of_mem_came (orderly.present attempt member)

theorem Orderly.nodup_came (orderly : traffic.Orderly) : (traffic.came.map Prod.fst).Nodup :=
  orderly.numbered ▸ List.nodup_range

theorem Orderly.not_obtained_of_waits (orderly : traffic.Orderly) {attempt : LockAttempt}
    (member : attempt ∈ traffic.keyed.attempts) (waits : attempt.holds = false)
    {key : String} {entry : AttemptId × String} (obtained : entry ∈ traffic.obtainedOn key) :
    entry.1 ≠ attempt.id := by
  -- It would stand among the holders and among those that wait, and so twice among those that came.
  intro same
  have order := orderly.order key
  have onRecord : entry ∈ traffic.steadfast key := order ▸ List.mem_append_left _ obtained
  have equal : entry = attempt.label :=
    List.inj_on_of_nodup_map orderly.nodup_came (List.mem_of_mem_filter onRecord)
      (orderly.present attempt member) same
  have onKey : attempt.key = key := by
    have passes := (Bool.and_eq_true_iff.mp (List.mem_filter.mp onRecord).2).1
    rw [equal] at passes
    exact of_decide_eq_true passes
  have alsoWaits : entry ∈ (traffic.keyed.waiting key).map LockAttempt.label :=
    List.mem_map.mpr ⟨attempt, List.mem_filter.mpr ⟨member, by simp [onKey, waits]⟩, equal.symm⟩
  have distinct : (traffic.steadfast key).Nodup :=
    (List.Nodup.of_map Prod.fst orderly.nodup_came).filter _
  rw [order, List.nodup_append] at distinct
  exact distinct.2.2 entry obtained entry alsoWaits rfl

/-! ## What each event puts on record -/

/-- Where the attempts stay as they are, there is nothing to record. -/
theorem Orderly.record_same (orderly : traffic.Orderly) (sound : after.Sound)
    (same : after.attempts = traffic.keyed.attempts) : (traffic.record after).Orderly := by
  have nobody : newcomers traffic.keyed after = [] :=
    newcomers_eq_nil fun now member => ⟨now, same ▸ member, rfl⟩
  have holders : newHolders traffic.keyed after = [] :=
    newHolders_eq_nil orderly.sound fun now member holds => ⟨now, same ▸ member, rfl, holds⟩
  have left : quitters traffic.keyed after = [] :=
    quitters_eq_nil fun other member => ⟨other, same ▸ member, rfl⟩
  have unchanged : traffic.record after = { traffic with keyed := after } := by
    simp [record, nobody, holders, left]
  rw [unchanged]
  refine ⟨sound, orderly.numbered, same ▸ orderly.present, orderly.left, fun key => ?_⟩
  have kept : after.waiting key = traffic.keyed.waiting key := by rw [waiting, waiting, same]
  exact (orderly.order key).trans (by rw [← kept]; rfl)

/-- The one that comes is put on record, also as a holder if nobody else is on its key. -/
theorem Orderly.record_append (orderly : traffic.Orderly) (sound : after.Sound)
    {new : LockAttempt} (named : new.id = traffic.came.length)
    (appended : after.attempts = traffic.keyed.attempts ++ [new])
    (alone : new.holds = true →
      (traffic.keyed.attempts.filter fun other => other.key = new.key) = []) :
    (traffic.record after).Orderly := by
  have fresh : ∀ other ∈ traffic.keyed.attempts, other.id ≠ new.id := fun other member =>
    named ▸ Nat.ne_of_lt (orderly.lt_of_mem_attempts member)
  have recorded : traffic.record after =
      { keyed := after
        came := traffic.came ++ [new.label]
        obtained := traffic.obtained ++ ([new].filter LockAttempt.holds).map LockAttempt.label
        abandoned := traffic.abandoned } := by
    rw [record, newcomers_append fresh appended, newHolders_append orderly.sound fresh appended,
      quitters_append appended, List.map_nil, List.append_nil]
    rfl
  rw [recorded]
  refine ⟨sound, ?_, ?_, ?_, ?_⟩
  · simp [orderly.numbered, List.range_succ, LockAttempt.label, named]
  · intro attempt member
    rw [appended] at member
    rcases List.mem_append.mp member with old | isNew
    · exact List.mem_append_left _ (orderly.present attempt old)
    · obtain rfl := List.mem_singleton.mp isNew
      exact List.mem_append_right _ List.mem_cons_self
  · intro id member
    rw [List.length_append]
    exact Nat.lt_add_right _ (orderly.left id member)
  · intro key
    have order := orderly.order key
    have stays : new.id ∉ traffic.abandoned := fun gone =>
      absurd (orderly.left new.id gone) (by rw [named]; exact Nat.lt_irrefl _)
    simp only [steadfast, obtainedOn, waiting, appended, List.filter_append, List.map_append]
      at order ⊢
    rw [order]
    by_cases same : new.key = key
    · cases holds : new.holds with
      | true =>
          -- Whoever waits on the key would be on it.
          have nobody : (traffic.keyed.attempts.filter fun attempt =>
              attempt.key = key && !attempt.holds) = [] := by
            have unused := List.filter_eq_nil_iff.mp (alone holds)
            refine List.filter_eq_nil_iff.mpr fun attempt member waits => unused attempt member ?_
            simpa [same] using (Bool.and_eq_true_iff.mp waits).1
          simp [LockAttempt.label, same, stays, holds, nobody]
      | false =>
          simp [LockAttempt.label, same, stays, holds]
    · simp [LockAttempt.label, same]

/-- Whoever comes, the traffic stays orderly. -/
theorem Orderly.record_lock (orderly : traffic.Orderly) (key : String) :
    (traffic.record (traffic.keyed.lock key traffic.came.length)).Orderly := by
  obtain ⟨lock, locks, made, equal, -⟩ := orderly.sound.toFiled.lock_eq key traffic.came.length
  have sound : (traffic.keyed.lock key traffic.came.length).Sound :=
    orderly.sound.lock fun other => orderly.lt_of_mem_attempts
  refine orderly.record_append sound ?_ (congrArg KeyedLocks.attempts equal) ?_
  · rfl
  · exact List.isEmpty_iff.mp

/-- One that looks is put on record as a holder if it has its lock and has not noticed yet. -/
theorem Orderly.record_poll (orderly : traffic.Orderly) (id : AttemptId) :
    (traffic.record (traffic.keyed.poll id)).Orderly := by
  have sound := orderly.sound.poll id
  rcases orderly.sound.poll_cases id with
    same | ⟨earlier, attempt, later, split, made, waits, apart⟩
  · exact orderly.record_same sound same
  · generalize traffic.keyed.poll id = after at sound made ⊢
    have member {other : LockAttempt} (inside : other ∈ earlier ∨ other = attempt ∨ other ∈ later) :
        other ∈ traffic.keyed.attempts := by
      rw [split, List.mem_append, List.mem_cons]
      exact inside
    have old : ∀ now ∈ after.attempts, ∃ other ∈ traffic.keyed.attempts, other.id = now.id ∧
        other.key = now.key := by
      intro now inside
      rw [made, List.mem_append, List.mem_cons] at inside
      rcases inside with before | rfl | behind
      · exact ⟨now, member (.inl before), rfl, rfl⟩
      · exact ⟨attempt, member (.inr (.inl rfl)), rfl, rfl⟩
      · exact ⟨now, member (.inr (.inr behind)), rfl, rfl⟩
    have kept : ∀ other ∈ traffic.keyed.attempts, ∃ now ∈ after.attempts, now.id = other.id := by
      intro other inside
      rw [split, List.mem_append, List.mem_cons] at inside
      rw [made]
      rcases inside with before | rfl | behind
      · exact ⟨other, by simp [before], rfl⟩
      · exact ⟨{ other with holds := true }, by simp, rfl⟩
      · exact ⟨other, by simp [behind], rfl⟩
    have nobody : newcomers traffic.keyed after = [] :=
      newcomers_eq_nil fun now inside => (old now inside).imp fun _ known => ⟨known.1, known.2.1⟩
    -- The attempt that looks is the only one that changes.
    have becomes : newHolders traffic.keyed after = [{ attempt with holds := true }] := by
      have held {other : LockAttempt}
          (inside : other ∈ earlier ∨ other = attempt ∨ other ∈ later) :=
        orderly.sound.toFiled.isHolder_of_mem (member inside)
      have front : (earlier.filter fun other =>
          other.holds && !traffic.keyed.isHolder other.id) = [] :=
        List.filter_eq_nil_iff.mpr fun other inside => by simp [held (.inl inside)]
      have back : (later.filter fun other =>
          other.holds && !traffic.keyed.isHolder other.id) = [] :=
        List.filter_eq_nil_iff.mpr fun other inside => by simp [held (.inr (.inr inside))]
      rw [newHolders, made, List.filter_append, List.filter_cons, front, back]
      simp [held (.inr (.inl rfl)), waits]
    have recorded : traffic.record after =
        { traffic with keyed := after, obtained := traffic.obtained ++ [attempt.label] } := by
      simp [record, nobody, becomes, quitters_eq_nil kept, LockAttempt.label]
    rw [recorded]
    refine ⟨sound, orderly.numbered, fun now inside => ?_, orderly.left, fun key => ?_⟩
    · obtain ⟨other, there, sameId, sameKey⟩ := old now inside
      have same : now.label = other.label := Prod.ext sameId.symm sameKey.symm
      exact same ▸ orderly.present other there
    · have order := orderly.order key
      rw [waiting, split, List.filter_append, List.filter_cons] at order
      simp only [obtainedOn, List.filter_append, waiting, made, List.filter_cons] at order ⊢
      -- The new holder was the first to wait on its key: it goes from the front of those that wait
      -- to the end of the holders.
      by_cases same : attempt.key = key
      · have front : (earlier.filter fun other => other.key = key && !other.holds) = [] :=
          List.filter_eq_nil_iff.mpr fun other inside => by simp [← same, apart other inside]
        simpa [steadfast, LockAttempt.label, same, waits, front] using order
      · simpa [steadfast, LockAttempt.label, same] using order

/-- One that ends is put on record as given up unless it was a holder. -/
theorem Orderly.record_without (orderly : traffic.Orderly) {id : AttemptId} (sound : after.Sound)
    (without : after.attempts = traffic.keyed.attempts.filter fun attempt => attempt.id ≠ id) :
    (traffic.record after).Orderly := by
  have old : ∀ now ∈ after.attempts, now ∈ traffic.keyed.attempts := fun now inside =>
    List.mem_of_mem_filter (without ▸ inside)
  have nobody : newcomers traffic.keyed after = [] :=
    newcomers_eq_nil fun now inside => ⟨now, old now inside, rfl⟩
  have holders : newHolders traffic.keyed after = [] :=
    newHolders_eq_nil orderly.sound fun now inside holds => ⟨now, old now inside, rfl, holds⟩
  have gone (number : AttemptId) : number ∈ (quitters traffic.keyed after).map LockAttempt.id ↔
      number = id ∧
        ∃ attempt ∈ traffic.keyed.attempts, attempt.holds = false ∧ attempt.id = id := by
    simp only [quitters, List.mem_map, List.mem_filter, Bool.and_eq_true, Bool.not_eq_true',
      isNone_attempt?, without, decide_eq_true_iff]
    constructor
    · rintro ⟨attempt, ⟨member, waits, absent⟩, rfl⟩
      have same : attempt.id = id := by
        by_contra different
        exact absent attempt ⟨member, different⟩ rfl
      exact ⟨same, attempt, member, waits, same⟩
    · rintro ⟨rfl, attempt, member, waits, same⟩
      exact ⟨attempt, ⟨member, waits, fun other inside equal => inside.2 (equal.trans same)⟩, same⟩
  have recorded : traffic.record after =
      { traffic with
        keyed := after
        abandoned := traffic.abandoned ++ (quitters traffic.keyed after).map LockAttempt.id } := by
    simp [record, nobody, holders]
  rw [recorded]
  generalize (quitters traffic.keyed after).map LockAttempt.id = quit at gone ⊢
  refine ⟨sound, orderly.numbered, fun now inside => orderly.present now (old now inside), ?_, ?_⟩
  · intro number member
    rcases List.mem_append.mp member with before | now
    · exact orderly.left number before
    · obtain ⟨rfl, attempt, inside, -, same⟩ := (gone number).mp now
      exact same ▸ orderly.lt_of_mem_attempts inside
  · intro key
    let stays (entry : AttemptId × String) : Bool := entry.1 ∉ quit
    have fewer : (traffic.steadfast key).filter stays =
        traffic.came.filter fun entry => entry.2 = key && entry.1 ∉ traffic.abandoned ++ quit := by
      rw [steadfast, List.filter_filter]
      refine List.filter_congr fun entry _ => ?_
      simp only [stays, List.mem_append, not_or, Bool.decide_and, Bool.and_comm,
        Bool.and_left_comm]
    -- The one that gave up waited, so the holders on record stay.
    have noHolder : (traffic.obtainedOn key).filter stays = traffic.obtainedOn key := by
      refine List.filter_eq_self.mpr fun entry obtained => decide_eq_true fun inQuit => ?_
      obtain ⟨same, attempt, member, waits, equal⟩ := (gone entry.1).mp inQuit
      exact orderly.not_obtained_of_waits member waits obtained (same.trans equal.symm)
    have fewerWait : ((traffic.keyed.waiting key).map LockAttempt.label).filter stays =
        (after.waiting key).map LockAttempt.label := by
      rw [List.filter_map, waiting, waiting, without, List.filter_filter, List.filter_filter]
      refine congrArg _ (List.filter_congr fun attempt member => ?_)
      cases waits : attempt.holds with
      | true => simp
      | false =>
          have quits : attempt.id ∈ quit ↔ attempt.id = id :=
            (gone attempt.id).trans (and_iff_left_of_imp fun same => ⟨attempt, member, waits, same⟩)
          simp [stays, LockAttempt.label, quits, Bool.and_comm]
    calc
      _ = (traffic.steadfast key).filter stays := fewer.symm
      _ = traffic.obtainedOn key ++ (after.waiting key).map LockAttempt.label := by
        rw [orderly.order key, List.filter_append, noHolder, fewerWait]

/-- Whatever happens, the traffic stays orderly. -/
theorem Orderly.step (orderly : traffic.Orderly) (event : LockEvent) :
    (traffic.step event).Orderly := by
  have sound := orderly.sound
  cases event with
  | lock key => exact orderly.record_lock key
  | poll id => exact orderly.record_poll id
  | drop id =>
      have ended := sound.drop id
      simp only [Traffic.step, act]
      rw [KeyedLocks.drop] at ended ⊢
      cases found : traffic.keyed.attempt? id with
      | none => exact orderly.record_same sound rfl
      | some attempt =>
          simp only [found] at ended ⊢
          split at ended <;> rename_i holds
          · rw [if_pos holds]
            exact orderly.record_without ended (attempts_forget _ _)
          · rw [if_neg holds]
            exact orderly.record_without ended rfl
  | release id =>
      simp only [Traffic.step, act]
      split
      · exact orderly.record_without (sound.withdraw id) rfl
      · exact orderly.record_same sound rfl
  | sweep key => exact orderly.record_same (sound.forget key) (attempts_forget _ _)

theorem Orderly.run (orderly : traffic.Orderly) (events : List LockEvent) :
    (traffic.run events).Orderly := by
  induction events generalizing traffic with
  | nil => exact orderly
  | cons event rest ih => exact ih (orderly.step event)

/-- The attempts on record are those that came. -/
theorem Orderly.came_step (orderly : traffic.Orderly) (event : LockEvent) :
    (traffic.step event).came.map Prod.snd = traffic.came.map Prod.snd ++ event.key?.toList := by
  have quiet {after : KeyedLocks} (old : ∀ now ∈ after.attempts,
      ∃ other ∈ traffic.keyed.attempts, other.id = now.id) :
      (traffic.record after).came.map Prod.snd = traffic.came.map Prod.snd ++ [] := by
    rw [record, newcomers_eq_nil old, List.map_nil, List.append_nil, List.append_nil]
  have without (id : AttemptId) : ∀ now ∈ (traffic.keyed.withdraw id).attempts,
      ∃ other ∈ traffic.keyed.attempts, other.id = now.id := fun now member =>
    ⟨now, List.mem_of_mem_filter member, rfl⟩
  have same : ∀ now ∈ traffic.keyed.attempts, ∃ other ∈ traffic.keyed.attempts,
      other.id = now.id := fun now member => ⟨now, member, rfl⟩
  cases event with
  | lock key =>
      obtain ⟨lock, locks, made, equal, -⟩ := orderly.sound.toFiled.lock_eq key traffic.came.length
      have fresh : ∀ other ∈ traffic.keyed.attempts, other.id ≠ traffic.came.length :=
        fun other member => Nat.ne_of_lt (orderly.lt_of_mem_attempts member)
      have comes := newcomers_append fresh (congrArg KeyedLocks.attempts equal)
      simp only [Traffic.step, act, record, comes, List.map_append]
      rfl
  | poll id =>
      refine quiet fun now member => ?_
      obtain ⟨before, inside, rfl⟩ := List.mem_map.mp member
      exact ⟨before, inside, id_noticed.symm⟩
  | drop id =>
      refine quiet fun now member => ?_
      rw [act, KeyedLocks.drop] at member
      split at member
      · exact same now member
      · split at member
        · exact without id now (attempts_forget _ _ ▸ member)
        · exact without id now member
  | release id =>
      refine quiet fun now member => ?_
      rw [act] at member
      split at member
      · exact without id now member
      · exact same now member
  | sweep key =>
      refine quiet fun now member => ?_
      rw [act, attempts_forget] at member
      exact same now member

theorem Orderly.came_run (orderly : traffic.Orderly) (events : List LockEvent) :
    (traffic.run events).came.map Prod.snd =
      traffic.came.map Prod.snd ++ events.filterMap LockEvent.key? := by
  induction events generalizing traffic with
  | nil => exact (List.append_nil _).symm
  | cons event rest ih =>
      rw [Traffic.run, List.foldl_cons, ← Traffic.run, ih (orderly.step event),
        orderly.came_step, List.append_assoc, List.filterMap_cons]
      cases event.key? <;> rfl

end Traffic

namespace KeyedLocks

variable {keyed : KeyedLocks} {attempt : LockAttempt}

/-- An attempt that has its lock is before all others on its key. -/
theorem Sound.has_iff (sound : keyed.Sound) (member : attempt ∈ keyed.attempts) :
    keyed.has attempt = true ↔
      ∀ other ∈ keyed.attempts, other.key = attempt.key → attempt.id ≤ other.id := by
  rw [has, Bool.or_eq_true, ← sound.isFirst_iff member, or_iff_right_iff_imp]
  exact fun holds => (sound.isFirst_iff member).mpr (sound.foremost attempt member holds)

/-- A look makes a holder of exactly those that have their locks. -/
theorem Sound.isHolder_poll (sound : keyed.Sound) (member : attempt ∈ keyed.attempts) :
    (keyed.poll attempt.id).isHolder attempt.id = keyed.has attempt :=
  sound.fair.isHolder_poll member

/-- Somebody has the lock of every key that somebody is on. -/
theorem Sound.exists_has (sound : keyed.Sound) (member : attempt ∈ keyed.attempts) :
    ∃ other ∈ keyed.attempts, other.key = attempt.key ∧ keyed.has other = true := by
  obtain ⟨first, inside, same, isFirst⟩ := sound.toFiled.exists_first member
  exact ⟨first, inside, same, by rw [has, isFirst, Bool.or_true]⟩

end KeyedLocks

namespace Traffic

/-- Whatever attempts do, and whatever happens between the two halves of a holder's end: at most one
attempt on a key has its lock, all refer to the lock that the map holds for the key, they become
holders in the order in which they came except for those given up before, and where somebody waits
somebody has the lock.  An attempt finds that it has its lock if nobody on its own key came before
it, whatever happens on other keys. -/
theorem run_exclusive (events : List LockEvent) :
    let traffic := run {} events
    let keyed := traffic.keyed
    (∀ first ∈ keyed.attempts, ∀ second ∈ keyed.attempts, first.key = second.key →
        keyed.has first = true → keyed.has second = true → first = second) ∧
      (∀ attempt ∈ keyed.attempts, keyed.locks.get? attempt.key = some attempt.lock) ∧
      traffic.came.map Prod.fst = List.range traffic.came.length ∧
      traffic.came.map Prod.snd = events.filterMap LockEvent.key? ∧
      (∀ key, traffic.steadfast key =
        traffic.obtainedOn key ++ (keyed.waiting key).map LockAttempt.label) ∧
      (∀ attempt ∈ keyed.attempts, ∃ other ∈ keyed.attempts,
        other.key = attempt.key ∧ keyed.has other = true) ∧
      ∀ attempt ∈ keyed.attempts,
        ((keyed.poll attempt.id).isHolder attempt.id = true ↔
          ∀ other ∈ keyed.attempts, other.key = attempt.key → attempt.id ≤ other.id) := by
  intro traffic keyed
  have orderly : traffic.Orderly := orderly_fresh.run events
  have sound : keyed.Sound := orderly.sound
  refine ⟨fun first member second also same here there => ?_, sound.filed, orderly.numbered,
    orderly_fresh.came_run events, orderly.order, fun attempt => sound.exists_has,
    fun attempt member => ?_⟩
  · have forward := (sound.has_iff member).mp here second also same.symm
    have backward := (sound.has_iff also).mp there first member same
    exact sound.toFiled.eq_of_id_eq member also (Nat.le_antisymm forward backward)
  · rw [sound.isHolder_poll member]
    exact sound.has_iff member

/-- The second of three attempts is handed the lock between the two halves of the end of the
first. -/
example : ((run {} [.lock "k", .lock "k", .release 0, .lock "k", .sweep "k", .poll 1]).obtainedOn
    "k").map Prod.fst = [0, 1] := by decide

end Traffic
end JarLedger
