import JarLedger.Reconciliation
import JarLedger.Store.Memory

/-!
# Runs through the stages

A run is unfolded one stage at a time.  With the store in memory it comes down to one function on
ledgers, `Ledger.settle`: the transaction leaves the ledger either settled or untouched.
-/

namespace JarLedger
namespace Reconciliation

variable {σ : Type} {store : Store σ} {message : Message}

@[simp]
theorem run_finished (result : Except IngestError Reconciled) (state : σ) :
    run store message (.finished result) state = (result, state) := by
  rw [run]
  rfl

/-- An unfinished run makes the request of its stage and goes on. -/
theorem run_step {stage : Stage} (unfinished : stage.result? = none) (state : σ) :
    run store message stage state =
      run store message (step store message stage state).1
        (step store message stage state).2 := by
  rw [run]
  split
  · rename_i result finished
    rw [unfinished] at finished
    cases finished
  · rfl

/-- A stage with a result is the last one. -/
theorem eq_finished_of_result? {stage : Stage} {result : Except IngestError Reconciled}
    (found : stage.result? = some result) : stage = .finished result := by
  cases stage <;> simp_all [Stage.result?]

/-- A request changes nothing about what a run comes to. -/
theorem run_after_step (stage : Stage) (state : σ) :
    run store message (step store message stage state).1 (step store message stage state).2 =
      run store message stage state := by
  cases found : stage.result? with
  | none => exact (run_step found state).symm
  | some result =>
      rw [eq_finished_of_result? found]
      rfl

/-- A run keeps to its end what every request keeps. -/
theorem run_preserves {invariant : Stage → σ → Prop}
    (keeps : ∀ stage state, invariant stage state →
      invariant (step store message stage state).1 (step store message stage state).2)
    (stage : Stage) (state : σ) (holds : invariant stage state) :
    invariant (.finished (run store message stage state).1) (run store message stage state).2 := by
  fun_induction run store message stage state with
  | case1 stage state result found =>
      rw [← eq_finished_of_result? found]
      exact holds
  | case2 stage state unfinished next ih => exact ih (keeps stage state holds)

/-- What a message does in an open transaction, and what comes of it. -/
def apply (store : Store σ) (message : Message) (state : σ) : Except IngestError Reconciled × σ :=
  match message with
  | .newInstance new =>
      match store.insert new state with
      | (.ok id, state) => (.ok (.inserted id), state)
      | (.error cause, state) => (.error (.persistence cause), state)
  | .update delta =>
      match store.lookup delta.linkingHash state with
      | (.error cause, state) => (.error (.persistence cause), state)
      | (.ok [], state) => (.error (.integrity (.unknownLinkingHash delta.linkingHash)), state)
      | (.ok [row], state) =>
          match store.add row.id delta.jars state with
          | (.ok added, state) => (.ok (.merged row.id added), state)
          | (.error cause, state) => (.error (.persistence cause), state)
      | (.ok rows, state) =>
          (.error (.integrity (.notUnique delta.linkingHash rows.length)), state)

/-- Commit what was done, or roll back after a failure. -/
def settle (store : Store σ) (result : Except IngestError Reconciled) (state : σ) :
    Except IngestError Reconciled × σ :=
  match result with
  | .ok outcome =>
      match store.commit state with
      | (.ok (), state) => (.ok outcome, state)
      | (.error cause, state) => (.error (.persistence cause), state)
  | .error failure => (.error failure, (store.rollback state).2)

theorem run_rollingBack (failure : IngestError) (state : σ) :
    run store message (.rollingBack failure) state = settle store (.error failure) state := by
  rw [run_step rfl]
  exact run_finished _ _

theorem run_committing (outcome : Reconciled) (state : σ) :
    run store message (.committing outcome) state = settle store (.ok outcome) state := by
  rw [run_step rfl]
  simp only [step, settle]
  rcases store.commit state with ⟨_ | _, after⟩ <;> exact run_finished _ _

theorem run_applying (state : σ) :
    run store message .applying state =
      settle store (apply store message state).1 (apply store message state).2 := by
  rw [run_step rfl]
  cases message with
  | newInstance new =>
      simp only [step, apply]
      rcases store.insert new state with ⟨cause | id, after⟩
      · exact run_rollingBack _ _
      · exact run_committing _ _
  | update delta =>
      simp only [step, apply]
      rcases store.lookup delta.linkingHash state with
        ⟨cause | _ | ⟨row, _ | ⟨second, rest⟩⟩, after⟩
      · exact run_rollingBack _ _
      · exact run_rollingBack _ _
      · simp only [Stage.afterLookup]
        rw [run_step rfl]
        simp only [step]
        rcases store.add row.id delta.jars after with ⟨cause | added, last⟩
        · exact run_rollingBack _ _
        · exact run_committing _ _
      · exact run_rollingBack _ _

end Reconciliation

/-- Reconciling a message opens a transaction, applies the message in it, and settles what came of
that. -/
theorem reconcile_eq {σ : Type} (store : Store σ) (message : Message) (state : σ) :
    reconcile store message state =
      match store.begin state with
      | (.ok (), begun) =>
          Reconciliation.settle store (Reconciliation.apply store message begun).1
            (Reconciliation.apply store message begun).2
      | (.error cause, after) => (.error (.persistence cause), after) := by
  rw [reconcile, Reconciliation.run_step rfl]
  simp only [Reconciliation.step]
  rcases store.begin state with ⟨_ | _, after⟩
  · exact Reconciliation.run_finished _ _
  · exact Reconciliation.run_applying _

/-- The ledger after a message, and what the message did; after a failure the ledger is the one
from before. -/
def Ledger.settle (ledger : Ledger) : Message → Except IngestError Reconciled × Ledger
  | .newInstance new =>
      match ledger.insert new with
      | (.ok id, after) => (.ok (.inserted id), after)
      | (.error cause, _) => (.error (.persistence cause), ledger)
  | .update delta =>
      match ledger.lookup delta.linkingHash with
      | [] => (.error (.integrity (.unknownLinkingHash delta.linkingHash)), ledger)
      | [row] =>
          match ledger.add row.id delta.jars with
          | (.ok added, after) => (.ok (.merged row.id added), after)
          | (.error cause, _) => (.error (.persistence cause), ledger)
      | rows =>
          (.error (.integrity (.notUnique delta.linkingHash rows.length)), ledger)

namespace MemoryStore

open Reconciliation

/-- With the store in memory a transaction settles the ledger that everyone sees, and leaves no
transaction open. -/
theorem reconcile_eq_settle (message : Message) (memory : MemoryStore) :
    reconcile store message memory =
      ((memory.committed.settle message).1, ⟨(memory.committed.settle message).2, none⟩) := by
  rw [reconcile_eq]
  cases message with
  | newInstance new =>
      simp only [store, MemoryStore.begin, Reconciliation.apply, onStaged, Ledger.settle]
      rcases memory.committed.insert new with ⟨_ | _, after⟩ <;> rfl
  | update delta =>
      simp only [store, MemoryStore.begin, Reconciliation.apply, onStaged, Ledger.settle]
      rcases memory.committed.lookup delta.linkingHash with _ | ⟨row, _ | ⟨second, rest⟩⟩
      · rfl
      · simp only
        rcases memory.committed.add row.id delta.jars with ⟨_ | _, after⟩ <;> rfl
      · rfl

end MemoryStore
end JarLedger
