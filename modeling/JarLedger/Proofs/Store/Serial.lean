import JarLedger.Proofs.Store.Contention
import Mathlib.Data.List.Nodup

/-!
# Calls at one store are serial

However calls at a store in memory interleave, those that come to an answer might as well have been
made one after the other, in the order in which they got the lock of the store.  The invariant
`Scene.Orderly` says why: only the first in line has a copy of the ledger, and carrying its
transaction through from there comes to the same as carrying it through from the ledger that
everyone sees.
-/

namespace JarLedger

namespace MemoryStore

open Reconciliation

theorem committed_onStaged {α : Type} (work : Ledger → Except PersistenceError α × Ledger)
    (memory : MemoryStore) : (onStaged work memory).2.committed = memory.committed := by
  obtain ⟨committed, staged⟩ := memory
  cases staged <;> rfl

/-- Requests of a transaction that is not at its end leave the ledger that everyone sees. -/
theorem committed_of_step {message : Message} {stage next : Stage} {memory after : MemoryStore}
    (moved : step store message stage memory = (next, after)) (unfinished : next.result? = none) :
    after.committed = memory.committed := by
  obtain rfl : _ = after := congrArg Prod.snd moved
  obtain rfl : _ = next := congrArg Prod.fst moved
  clear moved
  cases stage with
  | opening => rfl
  | applying =>
      cases message with
      | newInstance new =>
          have kept : (store.insert new memory).2.committed = memory.committed :=
            committed_onStaged _ memory
          simp only [step]
          split <;> rename_i request <;> rw [request] at kept <;> exact kept
      | update delta =>
          have kept : (store.lookup delta.linkingHash memory).2.committed = memory.committed :=
            committed_onStaged _ memory
          simp only [step]
          split <;> rename_i request <;> rw [request] at kept <;> exact kept
  | adding id =>
      cases message with
      | newInstance new => rfl
      | update delta =>
          have kept : (store.add id delta.jars memory).2.committed = memory.committed :=
            committed_onStaged _ memory
          simp only [step]
          split <;> rename_i request <;> rw [request] at kept <;> exact kept
  | committing outcome =>
      simp only [step] at unfinished
      split at unfinished <;> cases unfinished
  | rollingBack failure => rfl
  | finished result => rfl

/-- A transaction at its end has no copy of the ledger any more. -/
theorem staged_of_step {message : Message} {stage next : Stage} {memory after : MemoryStore}
    {result : Except IngestError Reconciled}
    (moved : step store message stage memory = (next, after))
    (unfinished : stage.result? = none) (finished : next.result? = some result) :
    after.staged = none := by
  obtain rfl : _ = after := congrArg Prod.snd moved
  obtain rfl : _ = next := congrArg Prod.fst moved
  clear moved
  cases stage with
  | opening => cases finished
  | applying =>
      cases message with
      | newInstance new =>
          simp only [step] at finished
          split at finished <;> cases finished
      | update delta =>
          simp only [step] at finished
          split at finished
          · rename_i rows _ _
            rcases rows with _ | ⟨first, _ | ⟨second, rest⟩⟩ <;> cases finished
          · cases finished
  | adding id =>
      cases message with
      | newInstance new => cases finished
      | update delta =>
          simp only [step] at finished
          split at finished <;> cases finished
  | committing outcome =>
      obtain ⟨committed, staged⟩ := memory
      cases staged <;> rfl
  | rollingBack failure => rfl
  | finished result => cases unfinished

end MemoryStore

namespace Contention

open Reconciliation (Stage)

/-- Going on with a call that has the lock of the store is as good as starting over. -/
def Resumes (committed : Ledger) : Errand → Stage → Option Ledger → Prop
  | .reconcile message, stage, staged =>
      stage.result? = none ∧
        Reconciliation.run MemoryStore.store message stage ⟨committed, staged⟩ =
          reconcile MemoryStore.store message ⟨committed, none⟩
  | _, _, _ => True

theorem resumes_opening (committed : Ledger) (errand : Errand) :
    Resumes committed errand .opening none := by
  cases errand with
  | reconcile message => exact ⟨rfl, rfl⟩
  | find linkingHash => trivial
  | delete linkingHash => trivial
  | counts => trivial

/-- A call that has the lock of the store either goes on, and the ledger that everyone sees stays,
or it comes to what its whole errand comes to. -/
theorem request_cases {errand : Errand} {stage : Stage} {staged : Option Ledger}
    {committed : Ledger} (resumes : Resumes committed errand stage staged) :
    (∃ next copy, request errand stage staged committed = (.inside next copy, committed) ∧
      Resumes committed errand next copy) ∨
    ∃ answer after, request errand stage staged committed = (.leaving (some answer), after) ∧
      errand.serve MemoryStore.store ⟨committed, none⟩ = (answer, ⟨after, none⟩) := by
  have served := MemoryStore.serve_eq errand committed
  cases errand with
  | find linkingHash => exact .inr ⟨_, _, rfl, served⟩
  | delete linkingHash => exact .inr ⟨_, _, rfl, served⟩
  | counts => exact .inr ⟨_, _, rfl, served⟩
  | reconcile message =>
      obtain ⟨unfinished, same⟩ := resumes
      have later := @Reconciliation.run_step _ MemoryStore.store message _ unfinished
        ⟨committed, staged⟩
      simp only [request]
      cases moved : Reconciliation.step MemoryStore.store message stage ⟨committed, staged⟩ with
      | mk next memory =>
          obtain ⟨after, copy⟩ := memory
          rw [moved, same] at later
          cases found : next.result? with
          | none =>
              obtain rfl : after = committed := MemoryStore.committed_of_step moved found
              exact .inl ⟨next, copy, rfl, found, later.symm⟩
          | some result =>
              obtain rfl : copy = none := MemoryStore.staged_of_step moved unfinished found
              rw [Reconciliation.eq_finished_of_result? found, Reconciliation.run_finished] at later
              refine .inr ⟨_, after, rfl, ?_⟩
              rw [Errand.serve, later]

namespace Phase

theorem isInside_eq_false {phase : Phase} (outside : phase.isInShop = false) :
    phase.isInside = false := by
  cases phase <;> simp_all [isInside, isInShop]

theorem isInside_iff {phase : Phase} :
    phase.isInside = true ↔ ∃ stage staged, phase = .inside stage staged := by
  cases phase <;> simp [isInside]

end Phase

/-! ## The line -/

/-- The line for the lock of the store is that of the calls that want it, and only the first of
them has it. -/
structure Queued (line : List AttemptId) (phase : AttemptId → Phase) : Prop where
  nodup : line.Nodup
  mem_iff : ∀ id, id ∈ line ↔ (phase id).isInShop = true
  first : ∀ id, (phase id).isInside = true → line.head? = some id

namespace Queued

variable {line : List AttemptId} {phase : AttemptId → Phase} {id : AttemptId} {next : Phase}

/-- At most one call has the lock of the store. -/
theorem inside_unique (queued : Queued line phase) {other : AttemptId}
    (left : (phase id).isInside = true) (right : (phase other).isInside = true) : other = id :=
  Option.some.inj ((queued.first other right).symm.trans (queued.first id left))

/-- A call that stays away from the store does not change the line. -/
theorem update_away (queued : Queued line phase) (away : (phase id).isInShop = false)
    (stays : next.isInShop = false) : Queued line (Function.update phase id next) where
  nodup := queued.nodup
  mem_iff := by
    intro other
    rw [queued.mem_iff, Function.update_apply]
    split
    · rename_i equal
      rw [equal, away, stays]
    · rfl
  first := by
    intro other inside
    rw [Function.update_apply] at inside
    split at inside
    · rw [Phase.isInside_eq_false stays] at inside
      cases inside
    · exact queued.first other inside

/-- A call that joins comes last. -/
theorem update_join (queued : Queued line phase) (away : (phase id).isInShop = false) :
    Queued (line ++ [id]) (Function.update phase id .inLine) where
  nodup := by
    have absent : id ∉ line := by
      rw [queued.mem_iff, away]
      exact Bool.false_ne_true
    rw [← List.concat_eq_append]
    exact List.Nodup.concat absent queued.nodup
  mem_iff := by
    intro other
    rw [List.mem_append, List.mem_singleton, queued.mem_iff, Function.update_apply]
    split
    · rename_i equal
      simp [equal, Phase.isInShop]
    · rename_i different
      simp [different]
  first := by
    intro other inside
    rw [Function.update_apply] at inside
    split at inside
    · cases inside
    · rw [List.head?_append, queued.first other inside]
      rfl

/-- A call that has or gets the lock of the store keeps its place. -/
theorem update_inside (queued : Queued line phase) (head : line.head? = some id)
    (stays : next.isInShop = true) : Queued line (Function.update phase id next) where
  nodup := queued.nodup
  mem_iff := by
    intro other
    rw [Function.update_apply]
    split
    · rename_i equal
      simp [equal, stays, List.mem_of_mem_head? head]
    · exact queued.mem_iff other
  first := by
    intro other inside
    rw [Function.update_apply] at inside
    split at inside
    · rename_i equal
      rw [equal, head]
    · exact queued.first other inside

/-- A call that leaves lets the others move up. -/
theorem update_leave (queued : Queued line phase) (leaves : next.isInShop = false) :
    Queued (line.erase id) (Function.update phase id next) where
  nodup := queued.nodup.erase id
  mem_iff := by
    intro other
    rw [queued.nodup.mem_erase_iff, queued.mem_iff, Function.update_apply]
    split
    · rename_i equal
      simp [equal, leaves]
    · rename_i different
      simp [different]
  first := by
    intro other inside
    rw [Function.update_apply] at inside
    split at inside
    · rw [Phase.isInside_eq_false leaves] at inside
      cases inside
    · rename_i different
      obtain ⟨rest, split⟩ := List.head?_eq_some_iff.mp (queued.first other inside)
      rw [split, List.erase_cons_tail (by simpa using different)]
      rfl

end Queued

/-! ## The record -/

/-- The calls that got the lock of the store are on record, and those of them that came to an answer
are serial. -/
structure Recorded (errand : AttemptId → Errand) (initial committed : Ledger)
    (entered : List AttemptId) (phase : AttemptId → Phase) : Prop where
  nodup : entered.Nodup
  late : ∀ id ∈ entered, (phase id).isEarly = false
  answered : ∀ id answer, (phase id).answer? = some answer → id ∈ entered
  last : ∀ id, (phase id).isInside = true → entered.getLast? = some id
  resumes : ∀ id stage staged, phase id = .inside stage staged →
    Resumes committed (errand id) stage staged
  serial : Errand.serveAll MemoryStore.store
      ((answersOf phase entered).map fun call => errand call.1) ⟨initial, none⟩ =
    ((answersOf phase entered).map Prod.snd, ⟨committed, none⟩)

section Answers

variable {phase : AttemptId → Phase} {id : AttemptId} {next : Phase}

theorem answersOf_update_of_notMem {ids : List AttemptId} (absent : id ∉ ids) :
    answersOf (Function.update phase id next) ids = answersOf phase ids := by
  refine List.filterMap_congr fun other member => ?_
  have different : other ≠ id := fun equal => absent (equal ▸ member)
  rw [answerOf?, Function.update_of_ne different, answerOf?]

theorem answersOf_update_of_same (ids : List AttemptId)
    (same : next.answer? = (phase id).answer?) :
    answersOf (Function.update phase id next) ids = answersOf phase ids := by
  refine List.filterMap_congr fun other _ => ?_
  rw [answerOf?, answerOf?, Function.update_apply]
  split
  · rename_i equal
    rw [equal, same]
  · rfl

theorem answersOf_append_of_none {ids : List AttemptId} (unanswered : (phase id).answer? = none) :
    answersOf phase (ids ++ [id]) = answersOf phase ids := by
  simp [answersOf, answerOf?, unanswered]

theorem answersOf_append_of_some {ids : List AttemptId} {answer : Answer}
    (answered : (phase id).answer? = some answer) :
    answersOf phase (ids ++ [id]) = answersOf phase ids ++ [(id, answer)] := by
  simp [answersOf, answerOf?, answered]

end Answers

namespace Recorded

variable {errand : AttemptId → Errand} {initial committed : Ledger} {entered : List AttemptId}
  {phase : AttemptId → Phase} {id : AttemptId} {next : Phase}

/-- A call that comes to no answer and does not get the lock of the store changes nothing on
record. -/
theorem update_quiet (recorded : Recorded errand initial committed entered phase)
    {before : Phase} (present : phase id = before) (same : next.answer? = before.answer?)
    (outside : next.isInside = false) (early : next.isEarly = true → before.isEarly = true) :
    Recorded errand initial committed entered (Function.update phase id next) := by
  subst before
  refine ⟨recorded.nodup, ?_, ?_, ?_, ?_, ?_⟩
  · intro other member
    rw [Function.update_apply]
    split
    · rename_i equal
      have late := recorded.late other member
      rw [equal] at late
      by_contra isEarly
      rw [early ((Bool.not_eq_false _).mp isEarly)] at late
      cases late
    · exact recorded.late other member
  · intro other answer answered
    rw [Function.update_apply] at answered
    split at answered
    · rename_i equal
      rw [same] at answered
      exact equal ▸ recorded.answered id answer answered
    · exact recorded.answered other answer answered
  · intro other inside
    rw [Function.update_apply] at inside
    split at inside
    · rw [outside] at inside
      cases inside
    · exact recorded.last other inside
  · intro other stage staged inside
    rw [Function.update_apply] at inside
    split at inside
    · rw [inside] at outside
      cases outside
    · exact recorded.resumes other stage staged inside
  · rw [answersOf_update_of_same entered same]
    exact recorded.serial

/-- A call that gets the lock of the store is put on record. -/
theorem update_enter (recorded : Recorded errand initial committed entered phase)
    (early : (phase id).isEarly = true)
    (alone : ∀ other, (phase other).isInside = true → other = id) :
    Recorded errand initial committed (entered ++ [id])
      (Function.update phase id (.inside .opening none)) := by
  have absent : id ∉ entered := by
    intro member
    rw [recorded.late id member] at early
    cases early
  refine ⟨?_, ?_, ?_, ?_, ?_, ?_⟩
  · rw [← List.concat_eq_append]
    exact List.Nodup.concat absent recorded.nodup
  · intro other member
    rw [Function.update_apply]
    split
    · rfl
    · rename_i different
      rcases List.mem_append.mp member with old | new
      · exact recorded.late other old
      · exact absurd (List.mem_singleton.mp new) different
  · intro other answer answered
    rw [Function.update_apply] at answered
    split at answered
    · cases answered
    · exact List.mem_append_left _ (recorded.answered other answer answered)
  · intro other inside
    rw [Function.update_apply] at inside
    rw [List.getLast?_concat]
    split at inside
    · rename_i equal
      rw [equal]
    · rw [alone other inside]
  · intro other stage staged inside
    rw [Function.update_apply] at inside
    split at inside
    · obtain ⟨rfl, rfl⟩ := Phase.inside.inj inside
      exact resumes_opening committed (errand other)
    · exact recorded.resumes other stage staged inside
  · rw [answersOf_append_of_none (by rw [Function.update_self]; rfl),
      answersOf_update_of_notMem absent]
    exact recorded.serial

/-- A call that goes on with the lock of the store changes nothing on record. -/
theorem update_continue (recorded : Recorded errand initial committed entered phase)
    (inside : (phase id).isInside = true) {stage : Stage} {staged : Option Ledger}
    (resumes : Resumes committed (errand id) stage staged) :
    Recorded errand initial committed entered
      (Function.update phase id (.inside stage staged)) := by
  obtain ⟨before, copy, present⟩ := Phase.isInside_iff.mp inside
  refine ⟨recorded.nodup, ?_, ?_, ?_, ?_, ?_⟩
  · intro other member
    rw [Function.update_apply]
    split
    · rfl
    · exact recorded.late other member
  · intro other answer answered
    rw [Function.update_apply] at answered
    split at answered
    · cases answered
    · exact recorded.answered other answer answered
  · intro other insideOther
    rw [Function.update_apply] at insideOther
    split at insideOther
    · rename_i equal
      exact equal ▸ recorded.last id inside
    · exact recorded.last other insideOther
  · intro other later copied insideOther
    rw [Function.update_apply] at insideOther
    split at insideOther
    · rename_i equal
      obtain ⟨rfl, rfl⟩ := Phase.inside.inj insideOther
      exact equal ▸ resumes
    · exact recorded.resumes other later copied insideOther
  · rw [answersOf_update_of_same entered (by rw [present]; rfl)]
    exact recorded.serial

/-- A call that comes to the answer of its errand is the next in the serial order. -/
theorem update_finish (recorded : Recorded errand initial committed entered phase)
    (inside : (phase id).isInside = true)
    (alone : ∀ other, (phase other).isInside = true → other = id) {answer : Answer}
    {after : Ledger}
    (served : (errand id).serve MemoryStore.store ⟨committed, none⟩ = (answer, ⟨after, none⟩)) :
    Recorded errand initial after entered
      (Function.update phase id (.leaving (some answer))) := by
  obtain ⟨stage, staged, present⟩ := Phase.isInside_iff.mp inside
  obtain ⟨front, split⟩ := List.getLast?_eq_some_iff.mp (recorded.last id inside)
  have absent : id ∉ front := by
    have distinct := recorded.nodup
    rw [split, List.nodup_append] at distinct
    exact fun member => distinct.2.2 id member id List.mem_cons_self rfl
  have nobody (other : AttemptId) :
      (Function.update phase id (.leaving (some answer)) other).isInside = false := by
    rw [Function.update_apply]
    split
    · rfl
    · rename_i different
      by_contra insideOther
      exact different (alone other ((Bool.not_eq_false _).mp insideOther))
  refine ⟨recorded.nodup, ?_, ?_, ?_, ?_, ?_⟩
  · intro other member
    rw [Function.update_apply]
    split
    · rfl
    · exact recorded.late other member
  · intro other found answered
    rw [Function.update_apply] at answered
    split at answered
    · rename_i equal
      rw [equal, split]
      exact List.mem_append_right _ List.mem_cons_self
    · exact recorded.answered other found answered
  · intro other insideOther
    rw [nobody other] at insideOther
    cases insideOther
  · intro other later copied insideOther
    have outside := nobody other
    rw [insideOther] at outside
    cases outside
  · have serial := recorded.serial
    have unanswered : (phase id).answer? = none := by
      rw [present]
      rfl
    rw [split, answersOf_append_of_none unanswered] at serial
    rw [split, answersOf_append_of_some (by rw [Function.update_self]; rfl),
      answersOf_update_of_notMem absent, List.map_append, Errand.serveAll_append, serial]
    simp [Errand.serveAll, served]

end Recorded

/-! ## Moves -/

namespace Scene

variable {serialized : Bool} {errand : AttemptId → Errand} {initial : Ledger} {scene : Scene}
  {id : AttemptId}

/-- What holds in every scene that moves lead to. -/
structure Orderly (errand : AttemptId → Errand) (initial : Ledger) (scene : Scene) : Prop where
  queued : Queued scene.line scene.phase
  recorded : Recorded errand initial scene.committed scene.entered scene.phase

theorem orderly_start (errand : AttemptId → Errand) (initial : Ledger) :
    (start initial).Orderly errand initial where
  queued :=
    { nodup := List.nodup_nil
      mem_iff := fun id => by simp [start, Phase.isInShop]
      first := by rintro id ⟨⟩ }
  recorded :=
    { nodup := List.nodup_nil
      late := by rintro id ⟨⟩
      answered := by rintro id answer ⟨⟩
      last := by rintro id ⟨⟩
      resumes := by rintro id stage staged ⟨⟩
      serial := rfl }

/-- Moves of a call that does not want the lock of the store. -/
theorem Orderly.setPhase_away (orderly : scene.Orderly errand initial) {before next : Phase}
    (present : scene.phase id = before) (away : before.isInShop = false)
    (stays : next.isInShop = false) (same : next.answer? = before.answer?)
    (early : next.isEarly = true → before.isEarly = true) :
    (scene.setPhase id next).Orderly errand initial where
  queued := orderly.queued.update_away (present ▸ away) stays
  recorded := orderly.recorded.update_quiet present same (Phase.isInside_eq_false stays) early

/-- The locks of keys have no part in the order. -/
theorem Orderly.withKeyed (orderly : scene.Orderly errand initial) (keyed : KeyedLocks) :
    ({ scene with keyed } : Scene).Orderly errand initial :=
  ⟨orderly.queued, orderly.recorded⟩

/-- However a call goes on, the scene stays orderly. -/
theorem Orderly.proceed (orderly : scene.Orderly errand initial) :
    (scene.proceed serialized errand id).Orderly errand initial := by
  unfold Scene.proceed
  cases present : scene.phase id with
  | idle =>
      cases key : key? serialized (errand id) with
      | some key =>
          exact (orderly.withKeyed _).setPhase_away present rfl rfl rfl fun _ => rfl
      | none => exact orderly.setPhase_away present rfl rfl rfl fun _ => rfl
  | awaitingKey =>
      dsimp only
      split
      · exact (orderly.withKeyed _).setPhase_away present rfl rfl rfl fun _ => rfl
      · exact orderly.withKeyed _
  | ready =>
      have away : (scene.phase id).isInShop = false := by rw [present]; rfl
      exact ⟨orderly.queued.update_join away,
        orderly.recorded.update_quiet present rfl rfl fun _ => rfl⟩
  | inLine =>
      have early : (scene.phase id).isEarly = true := by rw [present]; rfl
      dsimp only
      split
      · rename_i head
        have alone (other : AttemptId) (inside : (scene.phase other).isInside = true) :
            other = id :=
          Option.some.inj ((orderly.queued.first other inside).symm.trans head)
        exact ⟨orderly.queued.update_inside head rfl, orderly.recorded.update_enter early alone⟩
      · exact orderly
  | inside stage staged =>
      have inside : (scene.phase id).isInside = true := by rw [present]; rfl
      have alone (other : AttemptId) := @Queued.inside_unique _ _ _ orderly.queued other inside
      rcases request_cases (orderly.recorded.resumes id stage staged present) with
        ⟨next, copy, requested, resumes⟩ | ⟨answer, after, requested, served⟩
      · simp only [requested]
        exact ⟨orderly.queued.update_inside (orderly.queued.first id inside) rfl,
          orderly.recorded.update_continue inside resumes⟩
      · simp only [requested]
        exact ⟨orderly.queued.update_leave rfl,
          orderly.recorded.update_finish inside alone served⟩
  | leaving answer =>
      exact (orderly.withKeyed _).setPhase_away present rfl rfl rfl fun early => early
  | tidying answer =>
      cases key : key? serialized (errand id) with
      | some key =>
          exact (orderly.withKeyed _).setPhase_away present rfl rfl rfl fun early => early
      | none => exact orderly.setPhase_away present rfl rfl rfl fun early => early
  | gone answer => exact orderly

theorem Orderly.cancel (orderly : scene.Orderly errand initial) :
    (scene.cancel id).Orderly errand initial := by
  unfold Scene.cancel
  cases present : scene.phase id with
  | idle => exact orderly.setPhase_away present rfl rfl rfl fun _ => rfl
  | awaitingKey =>
      exact (orderly.withKeyed _).setPhase_away present rfl rfl rfl fun _ => rfl
  | ready => exact orderly.setPhase_away present rfl rfl rfl fun _ => rfl
  | inLine =>
      exact ⟨orderly.queued.update_leave rfl,
        orderly.recorded.update_quiet present rfl rfl fun _ => rfl⟩
  | inside stage staged =>
      exact ⟨orderly.queued.update_leave rfl,
        orderly.recorded.update_quiet present rfl rfl fun early => early⟩
  | leaving answer => exact orderly
  | tidying answer => exact orderly
  | gone answer => exact orderly

theorem Orderly.act (orderly : scene.Orderly errand initial) (move : Move) :
    (scene.act serialized errand id move).Orderly errand initial := by
  cases move with
  | proceed => exact orderly.proceed
  | cancel => exact orderly.cancel

theorem Orderly.run (orderly : scene.Orderly errand initial)
    (schedule : List (AttemptId × Move)) :
    (scene.run serialized errand schedule).Orderly errand initial := by
  induction schedule generalizing scene with
  | nil => exact orderly
  | cons next rest ih => exact ih (orderly.act next.2)

theorem mem_completed_iff (orderly : scene.Orderly errand initial) {answer : Answer} :
    (id, answer) ∈ scene.completed ↔ (scene.phase id).answer? = some answer := by
  rw [completed, answersOf, List.mem_filterMap]
  constructor
  · rintro ⟨other, -, answered⟩
    obtain ⟨found, present, equal⟩ := Option.map_eq_some_iff.mp answered
    obtain ⟨rfl, rfl⟩ := Prod.mk.inj equal
    exact present
  · intro answered
    exact ⟨id, orderly.recorded.answered id answer answered, by rw [answerOf?, answered]; rfl⟩

theorem completed_sublist (scene : Scene) :
    (scene.completed.map Prod.fst).Sublist scene.entered := by
  rw [completed]
  generalize scene.entered = ids
  induction ids with
  | nil => exact List.Sublist.slnil
  | cons id rest ih =>
      cases answered : (scene.phase id).answer? with
      | none => simpa [answersOf, answerOf?, answered] using ih.cons id
      | some answer => simpa [answersOf, answerOf?, answered] using ih.cons_cons id

/-- However calls interleave and whichever are cancelled, those that come to an answer come to the
answers, and leave the ledger, of the same calls made one after the other in the order in which they
got the lock of the store. -/
theorem run_serial (serialized : Bool) (errand : AttemptId → Errand) (initial : Ledger)
    (schedule : List (AttemptId × Move)) :
    let scene := (start initial).run serialized errand schedule
    Errand.serveAll MemoryStore.store (scene.completed.map fun call => errand call.1)
        ⟨initial, none⟩ = (scene.completed.map Prod.snd, ⟨scene.committed, none⟩) ∧
      scene.entered.Nodup ∧
      (scene.completed.map Prod.fst).Sublist scene.entered ∧
      ∀ id answer, (id, answer) ∈ scene.completed ↔ (scene.phase id).answer? = some answer := by
  intro scene
  have orderly : scene.Orderly errand initial := (orderly_start errand initial).run schedule
  exact ⟨orderly.recorded.serial, orderly.recorded.nodup, scene.completed_sublist,
    fun _ _ => mem_completed_iff orderly⟩

end Scene
end Contention
end JarLedger
