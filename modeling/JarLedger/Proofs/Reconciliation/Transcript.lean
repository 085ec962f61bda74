import JarLedger.Proofs.Reconciliation.Run

/-!
# Transcripts of reconciliations

`Store.recorded` is a store that keeps a transcript of what it is asked and of what it answers, and
otherwise does what the store does that it is made from.  Reconciling a message with either comes to
the same.
-/

namespace JarLedger

/-- A request to a store and the answer to it. -/
inductive Store.Exchange where
  | begun (answer : Except PersistenceError Unit)
  | inserted (new : Instance) (answer : Except PersistenceError InstanceId)
  | lookedUp (linkingHash : String) (answer : Except PersistenceError (List InstanceRow))
  | added (id : InstanceId) (jars : JarSet) (answer : Except PersistenceError Nat)
  | committed (answer : Except PersistenceError Unit)
  | rolledBack (answer : Except PersistenceError Unit)
  /-- The transaction was left without either. -/
  | abandoned
  /-- A request outside transactions. -/
  | outside

/-- Make a request and write it down. -/
def Request.noted {σ α : Type} (note : Except PersistenceError α → Store.Exchange)
    (request : Request σ α) : Request (σ × List Store.Exchange) α
  | (state, transcript) =>
      let served := request state
      (served.1, served.2, transcript ++ [note served.1])

namespace Store

variable {σ : Type}

/-- The store that keeps a transcript. -/
def recorded (store : Store σ) : Store (σ × List Exchange) where
  begin := Request.noted .begun store.begin
  insert new := Request.noted (.inserted new) (store.insert new)
  lookup linkingHash := Request.noted (.lookedUp linkingHash) (store.lookup linkingHash)
  add id jars := Request.noted (.added id jars) (store.add id jars)
  commit := Request.noted .committed store.commit
  rollback := Request.noted .rolledBack store.rollback
  abandon := fun (state, transcript) => (store.abandon state, transcript ++ [.abandoned])
  find linkingHash := Request.noted (fun _ => .outside) (store.find linkingHash)
  delete linkingHash := Request.noted (fun _ => .outside) (store.delete linkingHash)
  counts := Request.noted (fun _ => .outside) store.counts

end Store

namespace Reconciliation

variable {σ : Type} (store : Store σ) (message : Message)

/-- The transcript has no part in what a request does. -/
theorem step_recorded (stage : Stage) (state : σ) (transcript : List Store.Exchange) :
    (step store.recorded message stage (state, transcript)).1 =
        (step store message stage state).1 ∧
      (step store.recorded message stage (state, transcript)).2.1 =
        (step store message stage state).2 := by
  cases stage with
  | opening =>
      simp only [step, Store.recorded, Request.noted]
      rcases store.begin state with ⟨_ | _, after⟩ <;> exact ⟨rfl, rfl⟩
  | applying =>
      cases message with
      | newInstance new =>
          simp only [step, Store.recorded, Request.noted]
          rcases store.insert new state with ⟨_ | _, after⟩ <;> exact ⟨rfl, rfl⟩
      | update delta =>
          simp only [step, Store.recorded, Request.noted]
          rcases store.lookup delta.linkingHash state with ⟨_ | _, after⟩ <;> exact ⟨rfl, rfl⟩
  | adding id =>
      cases message with
      | newInstance new => exact ⟨rfl, rfl⟩
      | update delta =>
          simp only [step, Store.recorded, Request.noted]
          rcases store.add id delta.jars state with ⟨_ | _, after⟩ <;> exact ⟨rfl, rfl⟩
  | committing outcome =>
      simp only [step, Store.recorded, Request.noted]
      rcases store.commit state with ⟨_ | _, after⟩ <;> exact ⟨rfl, rfl⟩
  | rollingBack failure => exact ⟨rfl, rfl⟩
  | finished result => exact ⟨rfl, rfl⟩

/-- A request adds the same to any transcript. -/
theorem transcript_step_recorded (stage : Stage) (state : σ) (transcript : List Store.Exchange) :
    (step store.recorded message stage (state, transcript)).2.2 =
      transcript ++ (step store.recorded message stage (state, [])).2.2 := by
  cases stage with
  | opening =>
      simp only [step, Store.recorded, Request.noted]
      rcases store.begin state with ⟨_ | _, after⟩ <;> rfl
  | applying =>
      cases message with
      | newInstance new =>
          simp only [step, Store.recorded, Request.noted]
          rcases store.insert new state with ⟨_ | _, after⟩ <;> rfl
      | update delta =>
          simp only [step, Store.recorded, Request.noted]
          rcases store.lookup delta.linkingHash state with ⟨_ | _, after⟩ <;> rfl
  | adding id =>
      cases message with
      | newInstance new => exact (List.append_nil transcript).symm
      | update delta =>
          simp only [step, Store.recorded, Request.noted]
          rcases store.add id delta.jars state with ⟨_ | _, after⟩ <;> rfl
  | committing outcome =>
      simp only [step, Store.recorded, Request.noted]
      rcases store.commit state with ⟨_ | _, after⟩ <;> rfl
  | rollingBack failure => rfl
  | finished result => exact (List.append_nil transcript).symm

/-- The transcript has no part in what a run comes to. -/
theorem run_recorded (stage : Stage) (state : σ) (transcript : List Store.Exchange) :
    (run store.recorded message stage (state, transcript)).1 = (run store message stage state).1 ∧
      (run store.recorded message stage (state, transcript)).2.1 =
        (run store message stage state).2 := by
  fun_induction run store message stage state generalizing transcript with
  | case1 stage state result found =>
      rw [eq_finished_of_result? found, run_finished]
      exact ⟨rfl, rfl⟩
  | case2 stage state unfinished next ih =>
      obtain ⟨sameStage, sameState⟩ := step_recorded store message stage state transcript
      have after : (step store.recorded message stage (state, transcript)).2 =
          (next.2, (step store.recorded message stage (state, transcript)).2.2) :=
        Prod.ext sameState rfl
      rw [run_step unfinished, sameStage, after]
      exact ih _

end Reconciliation
end JarLedger
