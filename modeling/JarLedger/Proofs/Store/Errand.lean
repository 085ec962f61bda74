import JarLedger.Proofs.Reconciliation.Run

/-!
# Errands

An errand is one whole piece of work for a store: a message to reconcile, or a request outside any
transaction.  Errands served one after the other are the measure for everything that may happen in
another order.
-/

namespace JarLedger

/-- A piece of work for a store. -/
inductive Errand where
  /-- Reconcile a message in one transaction. -/
  | reconcile (message : Message)
  /-- Read the instance with a linking hash back. -/
  | find (linkingHash : String)
  /-- Remove the instance with a linking hash. -/
  | delete (linkingHash : String)
  /-- Count the rows. -/
  | counts

/-- What comes of an errand. -/
inductive Answer where
  | reconciled (result : Except IngestError Reconciled)
  | found (result : Except PersistenceError (Option StoredInstance))
  | deleted (result : Except PersistenceError Bool)
  | counted (result : Except PersistenceError StoreCounts)

/-- The failure of a result, if it is one. -/
def failureOf? : Except ε α → Option ε
  | .error failure => some failure
  | .ok _ => none

namespace Answer

/-- The failure that an answer reports. -/
def failure? : Answer → Option IngestError
  | .reconciled result => failureOf? result
  | .found result => (failureOf? result).map .persistence
  | .deleted result => (failureOf? result).map .persistence
  | .counted result => (failureOf? result).map .persistence

/-- The number that a new instance was given. -/
def newId? : Answer → Option InstanceId
  | .reconciled (.ok (.inserted id)) => some id
  | _ => none

end Answer

namespace Errand

variable {σ : Type}

/-- Do an errand at a store. -/
def serve (store : Store σ) (errand : Errand) (state : σ) : Answer × σ :=
  match errand with
  | .reconcile message =>
      let (result, state) := JarLedger.reconcile store message state
      (.reconciled result, state)
  | .find linkingHash =>
      let (result, state) := store.find linkingHash state
      (.found result, state)
  | .delete linkingHash =>
      let (result, state) := store.delete linkingHash state
      (.deleted result, state)
  | .counts =>
      let (result, state) := store.counts state
      (.counted result, state)

/-- Do errands one after the other. -/
def serveAll (store : Store σ) : List Errand → σ → List Answer × σ
  | [], state => ([], state)
  | errand :: errands, state =>
      let served := errand.serve store state
      let later := serveAll store errands served.2
      (served.1 :: later.1, later.2)

theorem serveAll_append (store : Store σ) (front back : List Errand) (state : σ) :
    serveAll store (front ++ back) state =
      ((serveAll store front state).1 ++ (serveAll store back (serveAll store front state).2).1,
        (serveAll store back (serveAll store front state).2).2) := by
  induction front generalizing state with
  | nil => rfl
  | cons errand front ih => simp only [List.cons_append, serveAll, ih]

end Errand

/-- The answer of a ledger to an errand, and the ledger afterwards. -/
def Ledger.serve (ledger : Ledger) : Errand → Answer × Ledger
  | .reconcile message => (.reconciled (ledger.settle message).1, (ledger.settle message).2)
  | .find linkingHash => (.found (ledger.find linkingHash), ledger)
  | .delete linkingHash =>
      (.deleted (.ok (ledger.delete linkingHash).1), (ledger.delete linkingHash).2)
  | .counts => (.counted (.ok ledger.counts), ledger)

/-- Between transactions the store in memory is its ledger. -/
theorem MemoryStore.serve_eq (errand : Errand) (ledger : Ledger) :
    errand.serve MemoryStore.store ⟨ledger, none⟩ =
      ((ledger.serve errand).1, ⟨(ledger.serve errand).2, none⟩) := by
  cases errand with
  | reconcile message => rw [Errand.serve, reconcile_eq_settle]; rfl
  | find linkingHash => rfl
  | delete linkingHash => rfl
  | counts => rfl

end JarLedger
