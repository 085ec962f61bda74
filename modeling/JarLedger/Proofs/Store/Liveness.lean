import JarLedger.Proofs.Reconciliation.Crowd
import JarLedger.Proofs.Store.Serial

/-!
# Calls at one store do not block each other

A call may hold the lock of its linking hash while it waits for the lock of the store, but never the
other way round.  So the first in line for the store can go on, and if nobody is in that line, then
the first in the line for a linking hash can (`Scene.exists_canMove`).  The one thing that anybody
may have to wait for besides is a call that was cancelled and is about to give its lock back; that
call waits for nobody.
-/

namespace JarLedger
namespace Contention

open KeyedLocks (Standing)
open Reconciliation (Stage)

namespace Phase

/-- How a call stands to the lock of its key. -/
def standing : Phase → Standing
  | .awaitingKey => .waiting
  | .ready => .having
  | .inLine => .having
  | .inside _ _ => .having
  | .leaving _ => .having
  | _ => .away

/-- Whether a call has begun and is neither over nor cancelled. -/
def isUnderWay : Phase → Bool
  | .awaitingKey => true
  | .ready => true
  | .inLine => true
  | .inside _ _ => true
  | .leaving answer => answer.isSome
  | .tidying answer => answer.isSome
  | _ => false

theorem isUnderWay_of_isInShop {phase : Phase} (inShop : phase.isInShop = true) :
    phase.isUnderWay = true := by
  cases phase with
  | inLine => rfl
  | inside stage staged => rfl
  | idle | awaitingKey | ready | leaving _ | tidying _ | gone _ => cases inShop

/-- A call that is on the line for its key is under way, or cancelled and about to give its lock
back. -/
theorem isUnderWay_or_of_standing {phase : Phase} (there : phase.standing ≠ .away) :
    phase.isUnderWay = true ∨ phase = .leaving none := by
  cases phase with
  | awaitingKey | ready | inLine | inside _ _ => exact .inl rfl
  | leaving answer =>
      cases answer with
      | none => exact .inr rfl
      | some answer => exact .inl rfl
  | idle | tidying _ | gone _ => exact absurd rfl there

end Phase

/-- The request of a call brings it to another stage or out of the store. -/
theorem request_ne {errand : Errand} {stage : Stage} {staged : Option Ledger} {committed : Ledger}
    (resumes : Resumes committed errand stage staged) (copy : Option Ledger) :
    (request errand stage staged committed).1 ≠ .inside stage copy := by
  cases errand with
  | find _ | delete _ | counts => rintro ⟨⟩
  | reconcile message =>
      have nearer := Reconciliation.rank_step MemoryStore.store message stage ⟨committed, staged⟩
      have positive := Reconciliation.Stage.rank_pos resumes.1
      simp only [request]
      split
      · rintro ⟨⟩
      · intro same
        rw [(Phase.inside.inj same).1] at nearer
        omega

/-- After a request a call is still inside, or it leaves with an answer. -/
theorem request_inside_or_leaving (errand : Errand) (stage : Stage) (staged : Option Ledger)
    (committed : Ledger) :
    (∃ next copy, (request errand stage staged committed).1 = .inside next copy) ∨
      ∃ answer, (request errand stage staged committed).1 = .leaving (some answer) := by
  cases errand with
  | find _ | delete _ | counts => exact .inr ⟨_, rfl⟩
  | reconcile message =>
      simp only [request]
      split
      · exact .inr ⟨_, rfl⟩
      · exact .inl ⟨_, _, rfl⟩

namespace Scene

variable {serialized : Bool} {errand : AttemptId → Errand} {initial : Ledger} {scene : Scene}
  {id : AttemptId}

/-- Whether a call gets anywhere when it goes on. -/
def canMove (serialized : Bool) (errand : AttemptId → Errand) (scene : Scene) (id : AttemptId) :
    Prop :=
  (scene.proceed serialized errand id).phase id ≠ scene.phase id

/-! ## Calls and the locks of their keys -/

/-- The attempts to get locks of keys are those of calls that need them. -/
structure Attended (serialized : Bool) (errand : AttemptId → Errand) (scene : Scene) : Prop where
  serves : scene.keyed.Serves (fun id => key? serialized (errand id))
    (Phase.standing ∘ scene.phase)
  needs : ∀ id, scene.phase id = .awaitingKey → key? serialized (errand id) ≠ none

theorem attended_start (serialized : Bool) (errand : AttemptId → Errand) (initial : Ledger) :
    (start initial).Attended serialized errand where
  serves := KeyedLocks.serves_fresh _
  needs := nofun

/-- Whatever becomes of a call and of the locks of keys, calls stay attended if these two go
together. -/
theorem Attended.setPhase (attended : scene.Attended serialized errand) {after : Scene}
    {next : Phase} (others : after.phase = scene.phase)
    (serves : after.keyed.Serves (fun id => key? serialized (errand id))
      (Function.update (Phase.standing ∘ scene.phase) id next.standing))
    (needs : next = .awaitingKey → key? serialized (errand id) ≠ none) :
    (after.setPhase id next).Attended serialized errand where
  serves := by
    change after.keyed.Serves _ (Phase.standing ∘ Function.update after.phase id next)
    rw [others, Function.comp_update]
    exact serves
  needs := by
    intro other awaits
    change Function.update after.phase id next other = .awaitingKey at awaits
    rw [others, Function.update_apply] at awaits
    split at awaits
    · rename_i same
      exact same ▸ needs awaits
    · exact attended.needs other awaits

theorem Attended.proceed (attended : scene.Attended serialized errand) :
    (scene.proceed serialized errand id).Attended serialized errand := by
  have serves := attended.serves
  have stands : (Phase.standing ∘ scene.phase) id = (scene.phase id).standing := rfl
  unfold Scene.proceed
  cases present : scene.phase id with
  | idle =>
      rw [present] at stands
      cases key : key? serialized (errand id) with
      | some key => exact attended.setPhase rfl (serves.lock key stands) fun _ => key ▸ nofun
      | none => exact attended.setPhase rfl (serves.update_keyless key _) nofun
  | awaitingKey =>
      rw [present] at stands
      have polled := serves.poll id
      dsimp only
      split
      · rename_i holds
        exact attended.setPhase rfl (polled.notice (stands ▸ nofun) holds) nofun
      · exact ⟨polled, attended.needs⟩
  | ready =>
      rw [present] at stands
      exact attended.setPhase rfl (serves.update_same stands.symm) nofun
  | inLine =>
      rw [present] at stands
      dsimp only
      split
      · exact attended.setPhase rfl (serves.update_same stands.symm) nofun
      · exact attended
  | inside stage staged =>
      rw [present] at stands
      rcases request_inside_or_leaving (errand id) stage staged scene.committed with
        ⟨next, copy, requested⟩ | ⟨answer, requested⟩
      · simp only [requested]
        exact attended.setPhase rfl (serves.update_same stands.symm) nofun
      · simp only [requested]
        exact attended.setPhase rfl (serves.update_same stands.symm) nofun
  | leaving answer => exact attended.setPhase rfl (serves.withdraw id) nofun
  | tidying answer =>
      rw [present] at stands
      cases key : key? serialized (errand id) with
      | some key => exact attended.setPhase rfl ((serves.forget _).update_same stands.symm) nofun
      | none => exact attended.setPhase rfl (serves.update_same stands.symm) nofun
  | gone answer => exact attended

theorem Attended.cancel (attended : scene.Attended serialized errand) :
    (scene.cancel id).Attended serialized errand := by
  have serves := attended.serves
  have stands : (Phase.standing ∘ scene.phase) id = (scene.phase id).standing := rfl
  unfold Scene.cancel
  cases present : scene.phase id with
  | awaitingKey => exact attended.setPhase rfl (serves.drop id) nofun
  | idle | ready | inLine | inside _ _ =>
      rw [present] at stands
      exact attended.setPhase rfl (serves.update_same stands.symm) nofun
  | leaving _ | tidying _ | gone _ => exact attended

theorem Attended.act (attended : scene.Attended serialized errand) (move : Move) :
    (scene.act serialized errand id move).Attended serialized errand := by
  cases move with
  | proceed => exact attended.proceed
  | cancel => exact attended.cancel

theorem Attended.run (attended : scene.Attended serialized errand)
    (schedule : List (AttemptId × Move)) :
    (scene.run serialized errand schedule).Attended serialized errand := by
  induction schedule generalizing scene with
  | nil => exact attended
  | cons next rest ih => exact ih (attended.act next.2)

/-! ## Who can go on -/

/-- A call that needs no lock for its next step can go on. -/
theorem canMove_of_free (free : scene.phase id = .ready ∨ ∃ answer,
    scene.phase id = .leaving answer ∨ scene.phase id = .tidying answer) :
    scene.canMove serialized errand id := by
  rw [canMove, Scene.proceed]
  rcases free with present | ⟨answer, present | present⟩
  · rw [present]
    simp [Scene.setPhase]
  · rw [present]
    simp [Scene.setPhase]
  · rw [present]
    cases key? serialized (errand id) <;> simp [Scene.setPhase]

/-- A call that gets the lock of its key by looking can go on. -/
theorem canMove_of_isHolder (waits : scene.phase id = .awaitingKey)
    (holds : (scene.keyed.poll id).isHolder id = true) : scene.canMove serialized errand id := by
  have looks : ({ scene with keyed := scene.keyed.poll id } : Scene).holdsKey id = true := holds
  rw [canMove, Scene.proceed, waits]
  simp [looks, Scene.setPhase]

/-- The first in line for the store can go on. -/
theorem Orderly.canMove_head (orderly : scene.Orderly errand initial)
    (head : scene.line.head? = some id) : scene.canMove serialized errand id := by
  have inShop := (orderly.queued.mem_iff id).mp (List.mem_of_mem_head? head)
  rw [canMove, Scene.proceed]
  cases present : scene.phase id with
  | inLine => simp [head, Scene.setPhase]
  | inside stage staged =>
      have moves := request_ne (orderly.recorded.resumes id stage staged present)
      simpa [Scene.setPhase] using moves staged
  | idle | awaitingKey | ready | leaving _ | tidying _ | gone _ =>
      rw [present] at inShop
      cases inShop

/-- Where a call is under way and has the lock of its key, some call can go on. -/
theorem Orderly.exists_canMove_of_away (orderly : scene.Orderly errand initial)
    (underWay : (scene.phase id).isUnderWay = true) (has : scene.phase id ≠ .awaitingKey) :
    ∃ other, (scene.phase other).isUnderWay = true ∧ scene.canMove serialized errand other := by
  have queued (inShop : (scene.phase id).isInShop = true) :
      ∃ other, (scene.phase other).isUnderWay = true ∧ scene.canMove serialized errand other := by
    obtain ⟨first, rest, line⟩ :=
      List.exists_cons_of_ne_nil (List.ne_nil_of_mem ((orderly.queued.mem_iff id).mpr inShop))
    have head : scene.line.head? = some first := by rw [line, List.head?_cons]
    have inside := (orderly.queued.mem_iff first).mp (List.mem_of_mem_head? head)
    exact ⟨first, Phase.isUnderWay_of_isInShop inside, orderly.canMove_head head⟩
  cases present : scene.phase id with
  | ready => exact ⟨id, underWay, canMove_of_free (.inl present)⟩
  | inLine => exact queued (by rw [present]; rfl)
  | inside stage staged => exact queued (by rw [present]; rfl)
  | leaving answer => exact ⟨id, underWay, canMove_of_free (.inr ⟨answer, .inl present⟩)⟩
  | tidying answer => exact ⟨id, underWay, canMove_of_free (.inr ⟨answer, .inr present⟩)⟩
  | awaitingKey => exact absurd present has
  | idle | gone _ =>
      rw [present] at underWay
      cases underWay

/-- Where a call is under way, some call can go on that is under way as well or gives its lock back
after it was cancelled. -/
theorem exists_canMove (orderly : scene.Orderly errand initial)
    (attended : scene.Attended serialized errand) (underWay : (scene.phase id).isUnderWay = true) :
    ∃ other, ((scene.phase other).isUnderWay = true ∨ scene.phase other = .leaving none) ∧
      scene.canMove serialized errand other := by
  by_cases waits : scene.phase id = .awaitingKey
  · obtain ⟨key, needed⟩ := Option.ne_none_iff_exists'.mp (attended.needs id waits)
    obtain ⟨first, -, there, holds⟩ := attended.serves.exists_first needed
      (by rw [Function.comp_apply, waits]; nofun)
    by_cases alsoWaits : scene.phase first = .awaitingKey
    · exact ⟨first, .inl (by rw [alsoWaits]; rfl), canMove_of_isHolder alsoWaits holds⟩
    · rcases Phase.isUnderWay_or_of_standing there with begun | cancelled
      · obtain ⟨other, moving, moves⟩ := orderly.exists_canMove_of_away begun alsoWaits
        exact ⟨other, .inl moving, moves⟩
      · exact ⟨first, .inr cancelled, canMove_of_free (.inr ⟨none, .inl cancelled⟩)⟩
  · obtain ⟨other, moving, moves⟩ := orderly.exists_canMove_of_away underWay waits
    exact ⟨other, .inl moving, moves⟩

/-! ## Cancelled calls that give their locks back at once -/

/-- The schedule in which a call that is cancelled goes on at once until its locks are given back.
-/
def promptly (schedule : List (AttemptId × Move)) : List (AttemptId × Move) :=
  schedule.flatMap fun
    | (id, .proceed) => [(id, .proceed)]
    | (id, .cancel) => [(id, .cancel), (id, .proceed), (id, .proceed)]

theorem phase_proceed_of_ne {other : AttemptId} (different : other ≠ id) :
    (scene.proceed serialized errand id).phase other = scene.phase other := by
  have update (next : Phase) : Function.update scene.phase id next other = scene.phase other :=
    Function.update_of_ne different _ _
  unfold Scene.proceed
  cases scene.phase id with
  | idle | tidying _ => cases key? serialized (errand id) <;> exact update _
  | awaitingKey | inLine =>
      dsimp only
      split
      · exact update _
      · rfl
  | ready | inside _ _ | leaving _ => exact update _
  | gone _ => rfl

theorem phase_cancel_of_ne {other : AttemptId} (different : other ≠ id) :
    (scene.cancel id).phase other = scene.phase other := by
  have update (next : Phase) : Function.update scene.phase id next other = scene.phase other :=
    Function.update_of_ne different _ _
  unfold Scene.cancel
  cases scene.phase id with
  | idle | awaitingKey | ready | inLine | inside _ _ => exact update _
  | leaving _ | tidying _ | gone _ => rfl

/-- A call that has gone on is not about to give its lock back for having been cancelled. -/
theorem phase_proceed_ne : (scene.proceed serialized errand id).phase id ≠ .leaving none := by
  have update {next : Phase} (other : next ≠ .leaving none) :
      Function.update scene.phase id next id ≠ .leaving none := by
    rwa [Function.update_self]
  unfold Scene.proceed
  cases present : scene.phase id with
  | idle | tidying _ => cases key? serialized (errand id) <;> exact update nofun
  | awaitingKey | inLine =>
      dsimp only
      split
      · exact update nofun
      · change scene.phase id ≠ _
        rw [present]
        nofun
  | ready | leaving _ => exact update nofun
  | inside stage staged =>
      refine update ?_
      rcases request_inside_or_leaving (errand id) stage staged scene.committed with
        ⟨next, copy, requested⟩ | ⟨answer, requested⟩ <;> rw [requested] <;> nofun
  | gone _ =>
      rw [present]
      nofun

/-- No call that was cancelled is about to give its lock back. -/
def Swept (scene : Scene) : Prop := ∀ id, scene.phase id ≠ .leaving none

theorem swept_start (initial : Ledger) : (start initial).Swept := fun id about => by cases about

/-- A call that goes on leaves a swept scene if the others did so. -/
theorem swept_proceed (others : ∀ other, other ≠ id → scene.phase other ≠ .leaving none) :
    (scene.proceed serialized errand id).Swept := by
  intro other
  by_cases same : other = id
  · rw [same]
    exact phase_proceed_ne
  · rw [phase_proceed_of_ne same]
    exact others other same

theorem Swept.run_promptly (swept : scene.Swept) (schedule : List (AttemptId × Move)) :
    (scene.run serialized errand (promptly schedule)).Swept := by
  induction schedule generalizing scene with
  | nil => exact swept
  | cons next rest ih =>
      obtain ⟨id, move⟩ := next
      rw [promptly, List.flatMap_cons, ← promptly, Scene.run, List.foldl_append]
      refine ih ?_
      cases move with
      | proceed => exact swept_proceed fun other _ => swept other
      | cancel =>
          refine swept_proceed fun other _ => swept_proceed (fun other different => ?_) other
          change (scene.cancel id).phase other ≠ _
          rw [phase_cancel_of_ne different]
          exact swept other

end Scene

/-! ## The main result -/

/-- If reconciliations get the locks of their linking hashes first, then at any store at most one of
those with the same linking hash has a transaction open; and at a store in memory, whenever calls
are under way, one of them can go on, or a cancelled one is about to give its lock back and can.
If cancelled calls give their locks back at once, one of those under way can go on always. -/
theorem serialized_deadlock_free :
    (∀ (σ : Type) (store : AttemptId → Store σ) (message : AttemptId → Message) (state : σ)
      (events : List (Crowd.Event σ)) (id other : AttemptId),
      let crowd := (Crowd.start state).run store message events
      (message id).linkingHash = (message other).linkingHash →
        crowd.hasOpen id = true → crowd.hasOpen other = true → id = other) ∧
    (∀ (errand : AttemptId → Errand) (initial : Ledger) (schedule : List (AttemptId × Move)),
      let scene := (Scene.start initial).run true errand schedule
      (∃ id, (scene.phase id).isUnderWay = true) →
        ∃ id, ((scene.phase id).isUnderWay = true ∨ scene.phase id = .leaving none) ∧
          scene.canMove true errand id) ∧
    (∀ (errand : AttemptId → Errand) (initial : Ledger) (schedule : List (AttemptId × Move)),
      let scene := (Scene.start initial).run true errand (Scene.promptly schedule)
      (∃ id, (scene.phase id).isUnderWay = true) →
        ∃ id, (scene.phase id).isUnderWay = true ∧ scene.canMove true errand id) := by
  have moves (errand : AttemptId → Errand) (initial : Ledger)
      (schedule : List (AttemptId × Move)) {id : AttemptId}
      (begun : (((Scene.start initial).run true errand schedule).phase id).isUnderWay = true) :=
    Scene.exists_canMove ((Scene.orderly_start errand initial).run schedule)
      ((Scene.attended_start true errand initial).run schedule) begun
  refine ⟨?_, ?_, ?_⟩
  · intro σ store message state events id other crowd same here there
    exact ((Crowd.orderly_start state).run events).hasOpen_unique same here there
  · rintro errand initial schedule scene ⟨id, begun⟩
    exact moves errand initial schedule begun
  · rintro errand initial schedule scene ⟨id, begun⟩
    have swept : scene.Swept := (Scene.swept_start initial).run_promptly schedule
    obtain ⟨other, moving | cancelled, goes⟩ := moves errand initial _ begun
    · exact ⟨other, moving, goes⟩
    · exact absurd cancelled (swept other)

/-- Reconciliations of one linking hash: while the first has its transaction open nobody else has,
and after it is cancelled somebody can go on, at once or when its locks are given back. -/
theorem goes_on_after_cancel :
    let message := fun _ => Message.update { linkingHash := "h", jars := JarSet.empty }
    let errand := fun id => Errand.reconcile (message id)
    let crowd := (Crowd.start {}).run (fun _ => MemoryStore.store) message
      [.proceed 0, .proceed 1, .proceed 0, .proceed 0]
    let schedule := [(0, .proceed), (1, .proceed), (0, .proceed), (0, .cancel)]
    let scene := (Scene.start {}).run true errand schedule
    let swept := (Scene.start {}).run true errand (Scene.promptly schedule)
    (crowd.hasOpen 0 = true ∧ ∀ other, crowd.hasOpen other = true → 0 = other) ∧
    ((scene.phase 1).isUnderWay = true ∧
      ∃ id, ((scene.phase id).isUnderWay = true ∨ scene.phase id = .leaving none) ∧
        scene.canMove true errand id) ∧
    ((swept.phase 1).isUnderWay = true ∧
      ∃ id, (swept.phase id).isUnderWay = true ∧ swept.canMove true errand id) := by
  intro message errand crowd schedule scene swept
  obtain ⟨exclusive, goesOn, sweptGoesOn⟩ := serialized_deadlock_free
  have opened : crowd.hasOpen 0 = true := by decide
  have waits : (scene.phase 1).isUnderWay = true := by decide
  have stillWaits : (swept.phase 1).isUnderWay = true := by decide
  refine ⟨⟨opened, fun other also => ?_⟩, ⟨waits, ?_⟩, ⟨stillWaits, ?_⟩⟩
  · exact exclusive _ (fun _ => MemoryStore.store) message _ _ 0 other rfl opened also
  · exact goesOn errand {} schedule ⟨1, waits⟩
  · exact sweptGoesOn errand {} schedule ⟨1, stillWaits⟩

end Contention
end JarLedger
