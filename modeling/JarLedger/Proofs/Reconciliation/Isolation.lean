import JarLedger.Proofs.Reconciliation.Run

/-!
# Transactions that leave nothing behind

A store isolates its transactions if each of them either lasts or leaves the state from which it was
opened.  `Store.Isolation` asks this of the requests one by one; `Isolation.reconcile` draws from it
what one message may do.  The store in memory isolates its transactions.
-/

namespace JarLedger

/-- How a store keeps the work of a transaction apart from the rest of its state. -/
structure Store.Isolation {σ : Type} (store : Store σ) where
  /-- No transaction is open. -/
  Idle : σ → Prop
  /-- A transaction that was opened in the one state is under way in the other. -/
  Within : σ → σ → Prop
  opened : ∀ origin, Idle origin → (store.begin origin).1 = .ok () →
    Within origin (store.begin origin).2
  /-- Where no transaction can be opened nothing changes. -/
  unopened : ∀ origin cause, Idle origin → (store.begin origin).1 = .error cause →
    (store.begin origin).2 = origin
  inserting : ∀ origin state new, Within origin state → Within origin (store.insert new state).2
  lookingUp : ∀ origin state linkingHash, Within origin state →
    Within origin (store.lookup linkingHash state).2
  adding : ∀ origin state id jars, Within origin state → Within origin (store.add id jars state).2
  committed : ∀ origin state, Within origin state → (store.commit state).1 = .ok () →
    Idle (store.commit state).2
  /-- Work that cannot be made to last is undone. -/
  uncommitted : ∀ origin state cause, Within origin state →
    (store.commit state).1 = .error cause → (store.commit state).2 = origin
  rolledBack : ∀ origin state, Within origin state → (store.rollback state).2 = origin

namespace Store.Isolation

open Reconciliation

variable {σ : Type} {store : Store σ} {origin state : σ} {stage : Stage}

/-- Where a message that came to an idle store may have got to. -/
def Reached (isolation : store.Isolation) (origin : σ) : Stage → σ → Prop
  | .opening, state => state = origin
  | .finished (.ok _), state => isolation.Idle state
  | .finished (.error _), state => state = origin
  | _, state => isolation.Within origin state

theorem reached_afterLookup (isolation : store.Isolation) (linkingHash : String)
    (rows : List InstanceRow) (within : isolation.Within origin state) :
    isolation.Reached origin (.afterLookup linkingHash rows) state := by
  unfold Stage.afterLookup
  split <;> exact within

theorem reached_step (isolation : store.Isolation) (idle : isolation.Idle origin)
    (message : Message) (reached : isolation.Reached origin stage state) :
    isolation.Reached origin (step store message stage state).1
      (step store message stage state).2 := by
  cases stage with
  | opening =>
      obtain rfl : state = origin := reached
      have opened := isolation.opened state idle
      have unopened := isolation.unopened state
      rw [step]
      cases answer : store.begin state with
      | mk result after =>
          rw [answer] at opened unopened
          cases result with
          | ok _ => exact opened rfl
          | error cause => exact unopened cause idle rfl
  | applying =>
      cases message with
      | newInstance new =>
          have kept := isolation.inserting origin state new reached
          rw [step]
          cases answer : store.insert new state with
          | mk result after => rw [answer] at kept; cases result <;> exact kept
      | update delta =>
          have kept := isolation.lookingUp origin state delta.linkingHash reached
          rw [step]
          cases answer : store.lookup delta.linkingHash state with
          | mk result after =>
              rw [answer] at kept
              cases result with
              | ok rows => exact isolation.reached_afterLookup _ _ kept
              | error cause => exact kept
  | adding id =>
      cases message with
      | newInstance new => exact reached
      | update delta =>
          have kept := isolation.adding origin state id delta.jars reached
          rw [step]
          cases answer : store.add id delta.jars state with
          | mk result after => rw [answer] at kept; cases result <;> exact kept
  | committing outcome =>
      have committed := isolation.committed origin state reached
      have uncommitted := isolation.uncommitted origin state
      rw [step]
      cases answer : store.commit state with
      | mk result after =>
          rw [answer] at committed uncommitted
          cases result with
          | ok _ => exact committed rfl
          | error cause => exact uncommitted cause reached rfl
  | rollingBack failure => exact isolation.rolledBack origin state reached
  | finished result => exact reached

/-- A message leaves an idle store idle, and one that fails leaves it as it was. -/
theorem reconcile (isolation : store.Isolation) (idle : isolation.Idle origin)
    (message : Message) :
    isolation.Reached origin (.finished (JarLedger.reconcile store message origin).1)
      (JarLedger.reconcile store message origin).2 :=
  run_preserves (fun _ _ => isolation.reached_step idle message) .opening origin rfl

/-- A message that fails leaves an idle store as it was. -/
theorem unmoved_of_failed (isolation : store.Isolation) (idle : isolation.Idle origin)
    {message : Message} {failure : IngestError}
    (failed : JarLedger.reconcile store message origin = (.error failure, state)) :
    state = origin := by
  have reached := isolation.reconcile idle message
  rw [failed] at reached
  exact reached

/-- A message leaves an idle store idle. -/
theorem idle_reconcile (isolation : store.Isolation) (idle : isolation.Idle origin)
    (message : Message) : isolation.Idle (JarLedger.reconcile store message origin).2 := by
  have reached := isolation.reconcile idle message
  cases result : JarLedger.reconcile store message origin with
  | mk answer after =>
      rw [result] at reached
      cases answer with
      | ok outcome => exact reached
      | error failure =>
          rw [isolation.unmoved_of_failed idle result]
          exact idle

end Store.Isolation

namespace MemoryStore

/-- In memory a transaction works on a copy, and the ledger stays as it is until the end. -/
def isolation : store.Isolation where
  Idle memory := memory.staged = none
  Within origin memory := origin.staged = none ∧ memory.committed = origin.committed ∧
    memory.staged.isSome
  opened origin idle _ := ⟨idle, rfl, rfl⟩
  unopened origin cause _ refused := nomatch refused
  inserting := by
    rintro origin ⟨committed, _ | staged⟩ new ⟨idle, same, ⟨⟩⟩
    exact ⟨idle, same, rfl⟩
  lookingUp := by
    rintro origin ⟨committed, _ | staged⟩ linkingHash ⟨idle, same, ⟨⟩⟩
    exact ⟨idle, same, rfl⟩
  adding := by
    rintro origin ⟨committed, _ | staged⟩ id jars ⟨idle, same, ⟨⟩⟩
    exact ⟨idle, same, rfl⟩
  committed := by
    rintro origin ⟨committed, _ | staged⟩ ⟨idle, same, ⟨⟩⟩ _
    rfl
  uncommitted := by
    rintro origin ⟨committed, _ | staged⟩ cause ⟨idle, same, ⟨⟩⟩ ⟨⟩
  rolledBack := by
    rintro ⟨_, _⟩ memory ⟨rfl, same, _⟩
    exact congrArg (MemoryStore.mk · none) same

end MemoryStore
end JarLedger
