import JarLedger.Store.Basic

/-!
# Reconciling a message with a store

A message is applied in one transaction.  The work is a sequence of stages, each of which makes one
request to the store: open, apply, perhaps add jars, and then commit or roll back.  `reconcile` goes
through the stages to the end; a failing roll-back does not hide the failure that led to it.
-/

namespace JarLedger

/-- What applying a message did. -/
inductive Reconciled where
  /-- A new instance was stored. -/
  | inserted (id : InstanceId)
  /-- Jars were added to a stored instance. -/
  | merged (id : InstanceId) (added : Nat)
  deriving DecidableEq, Repr

namespace Reconciliation

/-- What is to be done next. -/
inductive Stage where
  /-- Open a transaction. -/
  | opening
  /-- Insert the new instance, or look up the one to update. -/
  | applying
  /-- Add jars to the one instance found. -/
  | adding (id : InstanceId)
  /-- Commit what was done. -/
  | committing (outcome : Reconciled)
  /-- Roll back after a failure. -/
  | rollingBack (failure : IngestError)
  /-- Nothing. -/
  | finished (result : Except IngestError Reconciled)

/-- Greatest number of requests that are still to be made. -/
def Stage.rank : Stage → Nat
  | .opening => 4
  | .applying => 3
  | .adding _ => 2
  | .committing _ => 1
  | .rollingBack _ => 1
  | .finished _ => 0

/-- The stage after a look-up: an update needs exactly one stored instance. -/
def Stage.afterLookup (linkingHash : String) : List InstanceRow → Stage
  | [] => .rollingBack (.integrity (.unknownLinkingHash linkingHash))
  | [row] => .adding row.id
  | rows => .rollingBack (.integrity (.notUnique linkingHash rows.length))

variable {σ : Type}

/-- Make the request of a stage. -/
def step (store : Store σ) (message : Message) (stage : Stage) (state : σ) : Stage × σ :=
  match stage with
  | .opening =>
      match store.begin state with
      | (.ok (), state) => (.applying, state)
      | (.error cause, state) => (.finished (.error (.persistence cause)), state)
  | .applying =>
      match message with
      | .newInstance new =>
          match store.insert new state with
          | (.ok id, state) => (.committing (.inserted id), state)
          | (.error cause, state) => (.rollingBack (.persistence cause), state)
      | .update delta =>
          match store.lookup delta.linkingHash state with
          | (.ok rows, state) => (.afterLookup delta.linkingHash rows, state)
          | (.error cause, state) => (.rollingBack (.persistence cause), state)
  | .adding id =>
      match message with
      | .newInstance _ => (.committing (.inserted id), state)
      | .update delta =>
          match store.add id delta.jars state with
          | (.ok added, state) => (.committing (.merged id added), state)
          | (.error cause, state) => (.rollingBack (.persistence cause), state)
  | .committing outcome =>
      match store.commit state with
      | (.ok (), state) => (.finished (.ok outcome), state)
      | (.error cause, state) => (.finished (.error (.persistence cause)), state)
  | .rollingBack failure => (.finished (.error failure), (store.rollback state).2)
  | .finished result => (.finished result, state)

theorem rank_afterLookup (linkingHash : String) (rows : List InstanceRow) :
    (Stage.afterLookup linkingHash rows).rank ≤ 2 := by
  unfold Stage.afterLookup
  split <;> simp [Stage.rank]

/-- Every request brings the end nearer. -/
theorem rank_step (store : Store σ) (message : Message) (stage : Stage) (state : σ) :
    (step store message stage state).1.rank ≤ stage.rank - 1 := by
  have lookedUp := rank_afterLookup
  cases stage <;> cases message <;> simp only [step] <;> (try split) <;> simp_all [Stage.rank]

/-- The result of the last stage. -/
def Stage.result? : Stage → Option (Except IngestError Reconciled)
  | .finished result => some result
  | _ => none

theorem Stage.rank_pos {stage : Stage} (unfinished : stage.result? = none) : 0 < stage.rank := by
  cases stage <;> simp_all [Stage.result?, Stage.rank]

/-- Go through the stages to the end. -/
def run (store : Store σ) (message : Message) (stage : Stage) (state : σ) :
    Except IngestError Reconciled × σ :=
  match _unfinished : stage.result? with
  | some result => (result, state)
  | none =>
      let next := step store message stage state
      run store message next.1 next.2
termination_by stage.rank
decreasing_by
  have positive := Stage.rank_pos _unfinished
  have nearer := rank_step store message stage state
  omega

end Reconciliation

/-- Apply a message to a store in one transaction. -/
def reconcile {σ : Type} (store : Store σ) (message : Message) (state : σ) :
    Except IngestError Reconciled × σ :=
  Reconciliation.run store message .opening state

end JarLedger
