import JarLedger.Proofs.Locks.Clients
import JarLedger.Proofs.Reconciliation.Transcript

/-!
# Reconciliations under way at once

Any number of reconciliations are under way at once, at any store.  Each gets the lock of its
linking hash, works in a transaction, and gives the lock back when the transaction is closed; it may
be cancelled at any time.  What a reconciliation has asked the store for, and what it was answered,
is on record, and says whether it has a transaction open.  However the reconciliations interleave,
at most one of those with the same linking hash has (`Crowd.Orderly.hasOpen_unique`).
-/

namespace JarLedger

open Reconciliation (Stage)
open KeyedLocks (Standing)

/-- Whether a transaction is open after an exchange, if one was open before or not. -/
def Store.Exchange.leavesOpen (before : Bool) : Store.Exchange → Bool
  | .begun (.ok ()) => true
  | .committed _ => false
  | .rolledBack _ => false
  | .abandoned => false
  | _ => before

/-- Whether a transaction is open at the end of a transcript. -/
def Store.hasOpen (transcript : List Store.Exchange) : Bool :=
  transcript.foldl Store.Exchange.leavesOpen false

@[simp]
theorem Store.hasOpen_append (transcript : List Store.Exchange) (last : Store.Exchange) :
    Store.hasOpen (transcript ++ [last]) = last.leavesOpen (Store.hasOpen transcript) := by
  rw [Store.hasOpen, List.foldl_concat, ← Store.hasOpen]

namespace Reconciliation

/-- Whether a transaction is open at a stage. -/
def Stage.hasTransaction : Stage → Bool
  | .opening => false
  | .finished _ => false
  | _ => true

theorem hasTransaction_afterLookup (linkingHash : String) (rows : List InstanceRow) :
    (Stage.afterLookup linkingHash rows).hasTransaction = true := by
  rcases rows with _ | ⟨first, _ | ⟨second, rest⟩⟩ <;> rfl

/-- The transcript goes on saying whether a transaction is open. -/
theorem hasOpen_step {σ : Type} (store : Store σ) (message : Message) {stage : Stage} (state : σ)
    {transcript : List Store.Exchange} (agrees : Store.hasOpen transcript = stage.hasTransaction) :
    Store.hasOpen (step store.recorded message stage (state, transcript)).2.2 =
      (step store.recorded message stage (state, transcript)).1.hasTransaction := by
  cases stage with
  | opening =>
      simp only [step, Store.recorded, Request.noted]
      rcases store.begin state with ⟨_ | _, after⟩
      · exact (Store.hasOpen_append _ _).trans agrees
      · exact Store.hasOpen_append _ _
  | applying =>
      cases message with
      | newInstance new =>
          simp only [step, Store.recorded, Request.noted]
          rcases store.insert new state with ⟨_ | _, after⟩ <;>
            exact (Store.hasOpen_append _ _).trans agrees
      | update delta =>
          simp only [step, Store.recorded, Request.noted]
          rcases store.lookup delta.linkingHash state with ⟨_ | rows, after⟩
          · exact (Store.hasOpen_append _ _).trans agrees
          · rw [hasTransaction_afterLookup]
            exact (Store.hasOpen_append _ _).trans agrees
  | adding id =>
      cases message with
      | newInstance new => exact agrees
      | update delta =>
          simp only [step, Store.recorded, Request.noted]
          rcases store.add id delta.jars state with ⟨_ | _, after⟩ <;>
            exact (Store.hasOpen_append _ _).trans agrees
  | committing outcome =>
      simp only [step, Store.recorded, Request.noted]
      rcases store.commit state with ⟨_ | _, after⟩ <;> exact Store.hasOpen_append _ _
  | rollingBack failure => exact Store.hasOpen_append _ _
  | finished result => exact agrees

end Reconciliation

/-- How far a reconciliation is. -/
inductive Turn where
  /-- Nothing is done. -/
  | idle
  /-- It has asked for the lock of its linking hash. -/
  | waiting
  /-- It has that lock, and what it does next is the request of a stage. -/
  | working (stage : Stage)
  /-- No transaction of it is open any more; one that was cancelled has no result. -/
  | leaving (result : Option (Except IngestError Reconciled))
  /-- It has let go of the lock. -/
  | tidying (result : Option (Except IngestError Reconciled))
  /-- It is over. -/
  | gone (result : Option (Except IngestError Reconciled))

namespace Turn

/-- How a reconciliation stands to the lock of its linking hash. -/
def standing : Turn → Standing
  | .waiting => .waiting
  | .working _ => .having
  | .leaving _ => .having
  | _ => .away

/-- Whether a transaction of it is open. -/
def hasTransaction : Turn → Bool
  | .working stage => stage.hasTransaction
  | _ => false

theorem standing_of_hasTransaction {turn : Turn} (has : turn.hasTransaction = true) :
    turn.standing = .having := by
  cases turn with
  | working stage => rfl
  | idle | waiting | leaving _ | tidying _ | gone _ => cases has

/-- A reconciliation works until its last stage. -/
def ofStage (stage : Stage) : Turn :=
  match stage.result? with
  | some result => .leaving (some result)
  | none => .working stage

theorem standing_ofStage (stage : Stage) : (ofStage stage).standing = .having := by
  cases stage <;> rfl

theorem hasTransaction_ofStage (stage : Stage) :
    (ofStage stage).hasTransaction = stage.hasTransaction := by
  cases stage <;> rfl

end Turn

/-- A store and the reconciliations at it. -/
structure Crowd (σ : Type) where
  /-- The locks of linking hashes. -/
  keyed : KeyedLocks := {}
  /-- The state of the store, all open transactions included. -/
  state : σ
  /-- What each reconciliation has asked the store for. -/
  transcript : AttemptId → List Store.Exchange := fun _ => []
  /-- How far each reconciliation is. -/
  turn : AttemptId → Turn := fun _ => .idle

namespace Crowd

/-- What may happen in a crowd. -/
inductive Event (σ : Type) where
  /-- A reconciliation goes on, if it need not wait. -/
  | proceed (id : AttemptId)
  /-- A reconciliation is cancelled, unless its work is done. -/
  | cancel (id : AttemptId)
  /-- The store comes to another state, through somebody else or through a request that is not
  answered yet. -/
  | drift (state : σ)

variable {σ : Type}

/-- Before any reconciliation. -/
def start (state : σ) : Crowd σ := { state }

/-- Say how far a reconciliation is. -/
def setTurn (crowd : Crowd σ) (id : AttemptId) (turn : Turn) : Crowd σ :=
  { crowd with turn := Function.update crowd.turn id turn }

/-- Whether a reconciliation has a transaction open. -/
def hasOpen (crowd : Crowd σ) (id : AttemptId) : Bool := Store.hasOpen (crowd.transcript id)

/-- Put the state of the store on record, and what a reconciliation has asked for. -/
def setRecord (crowd : Crowd σ) (id : AttemptId) (record : σ × List Store.Exchange) : Crowd σ :=
  { crowd with
    state := record.1
    transcript := Function.update crowd.transcript id record.2 }

variable (store : AttemptId → Store σ) (message : AttemptId → Message)

/-- Let a reconciliation go on. -/
def proceed (crowd : Crowd σ) (id : AttemptId) : Crowd σ :=
  match crowd.turn id with
  | .idle =>
      { crowd with keyed := crowd.keyed.lock (message id).linkingHash id }.setTurn id .waiting
  | .waiting =>
      let polled := { crowd with keyed := crowd.keyed.poll id }
      if polled.keyed.isHolder id then polled.setTurn id (.working .opening) else polled
  | .working stage =>
      let next := Reconciliation.step (store id).recorded (message id) stage
        (crowd.state, crowd.transcript id)
      (crowd.setRecord id next.2).setTurn id (.ofStage next.1)
  | .leaving result =>
      { crowd with keyed := crowd.keyed.withdraw id }.setTurn id (.tidying result)
  | .tidying result =>
      { crowd with keyed := crowd.keyed.forget (message id).linkingHash }.setTurn id (.gone result)
  | .gone _ => crowd

/-- Cancel a reconciliation.  It leaves its transaction, if one is open, and then gives its lock
back. -/
def cancel (crowd : Crowd σ) (id : AttemptId) : Crowd σ :=
  match crowd.turn id with
  | .idle => crowd.setTurn id (.gone none)
  | .waiting => { crowd with keyed := crowd.keyed.drop id }.setTurn id (.gone none)
  | .working _ =>
      let left :=
        if crowd.hasOpen id then
          crowd.setRecord id ((store id).recorded.abandon (crowd.state, crowd.transcript id))
        else crowd
      left.setTurn id (.leaving none)
  | _ => crowd

/-- Let something happen. -/
def act (crowd : Crowd σ) : Event σ → Crowd σ
  | .proceed id => crowd.proceed store message id
  | .cancel id => crowd.cancel store id
  | .drift state => { crowd with state }

/-- Let things happen one after the other. -/
def run (crowd : Crowd σ) (events : List (Event σ)) : Crowd σ :=
  events.foldl (act store message) crowd

/-! ## At most one transaction for a linking hash -/

/-- What holds in every crowd that events lead to. -/
structure Orderly (crowd : Crowd σ) : Prop where
  serves : crowd.keyed.Serves (fun id => some (message id).linkingHash)
    (Turn.standing ∘ crowd.turn)
  /-- The transcripts say what the turns say. -/
  agrees : ∀ id, crowd.hasOpen id = (crowd.turn id).hasTransaction

variable {store message} {crowd : Crowd σ} {id : AttemptId}

theorem orderly_start (state : σ) : (start state).Orderly message where
  serves := KeyedLocks.serves_fresh _
  agrees := fun _ => rfl

/-- Whatever becomes of the locks and of one reconciliation, the crowd stays orderly if these two
go together. -/
theorem Orderly.setTurn (orderly : crowd.Orderly message) {keyed : KeyedLocks} {turn : Turn}
    (serves : keyed.Serves (fun id => some (message id).linkingHash)
      (Function.update (Turn.standing ∘ crowd.turn) id turn.standing))
    (agrees : turn.hasTransaction = (crowd.turn id).hasTransaction) :
    ({ crowd with keyed }.setTurn id turn).Orderly message where
  serves := by
    change keyed.Serves _ (Turn.standing ∘ Function.update crowd.turn id turn)
    rw [Function.comp_update]
    exact serves
  agrees := by
    intro other
    change crowd.hasOpen other = (Function.update crowd.turn id turn other).hasTransaction
    rw [orderly.agrees, Function.update_apply]
    split
    · rename_i same
      rw [same, agrees]
    · rfl

/-- A reconciliation that stands to its lock as before may change what is on record. -/
theorem Orderly.setRecord (orderly : crowd.Orderly message) {turn : Turn}
    {record : σ × List Store.Exchange} (keeps : turn.standing = (crowd.turn id).standing)
    (agrees : Store.hasOpen record.2 = turn.hasTransaction) :
    ((crowd.setRecord id record).setTurn id turn).Orderly message where
  serves := by
    change crowd.keyed.Serves _ (Turn.standing ∘ Function.update crowd.turn id turn)
    rw [Function.comp_update]
    exact orderly.serves.update_same keeps
  agrees := by
    intro other
    change Store.hasOpen (Function.update crowd.transcript id record.2 other) =
      (Function.update crowd.turn id turn other).hasTransaction
    rw [Function.update_apply, Function.update_apply]
    split
    · exact agrees
    · exact orderly.agrees other

theorem Orderly.proceed (orderly : crowd.Orderly message) :
    (crowd.proceed store message id).Orderly message := by
  have serves := orderly.serves
  have stands : (Turn.standing ∘ crowd.turn) id = (crowd.turn id).standing := rfl
  unfold Crowd.proceed
  cases present : crowd.turn id with
  | idle =>
      rw [present] at stands
      exact orderly.setTurn (serves.lock rfl stands) (by rw [present]; rfl)
  | waiting =>
      rw [present] at stands
      have polled := serves.poll id
      dsimp only
      split
      · rename_i holds
        exact orderly.setTurn (polled.notice (stands ▸ nofun) holds) (by rw [present]; rfl)
      · exact ⟨polled, orderly.agrees⟩
  | working stage =>
      refine orderly.setRecord (by rw [present]; exact Turn.standing_ofStage _) ?_
      have agrees := orderly.agrees id
      rw [present] at agrees
      rw [Turn.hasTransaction_ofStage]
      exact Reconciliation.hasOpen_step _ _ _ agrees
  | leaving result => exact orderly.setTurn (serves.withdraw id) (by rw [present]; rfl)
  | tidying result =>
      rw [present] at stands
      exact orderly.setTurn ((serves.forget _).update_same stands.symm) (by rw [present]; rfl)
  | gone result => exact orderly

theorem Orderly.cancel (orderly : crowd.Orderly message) :
    (crowd.cancel store id).Orderly message := by
  have serves := orderly.serves
  have stands : (Turn.standing ∘ crowd.turn) id = (crowd.turn id).standing := rfl
  unfold Crowd.cancel
  cases present : crowd.turn id with
  | idle =>
      rw [present] at stands
      exact orderly.setTurn (serves.update_same stands.symm) (by rw [present]; rfl)
  | waiting => exact orderly.setTurn (serves.drop id) (by rw [present]; rfl)
  | working stage =>
      rw [present] at stands
      dsimp only
      split
      · exact orderly.setRecord (by rw [present]; rfl) (Store.hasOpen_append _ _)
      · rename_i closed
        refine orderly.setTurn (serves.update_same stands.symm) ?_
        rw [← orderly.agrees, Bool.eq_false_iff.mpr closed]
        rfl
  | leaving result => exact orderly
  | tidying result => exact orderly
  | gone result => exact orderly

theorem Orderly.act (orderly : crowd.Orderly message) (event : Event σ) :
    (crowd.act store message event).Orderly message := by
  cases event with
  | proceed id => exact orderly.proceed
  | cancel id => exact orderly.cancel
  | drift state => exact ⟨orderly.serves, orderly.agrees⟩

theorem Orderly.run (orderly : crowd.Orderly message) (events : List (Event σ)) :
    (crowd.run store message events).Orderly message := by
  induction events generalizing crowd with
  | nil => exact orderly
  | cons event rest ih => exact ih (orderly.act event)

theorem Orderly.hasOpen_unique (orderly : crowd.Orderly message) {other : AttemptId}
    (same : (message id).linkingHash = (message other).linkingHash)
    (here : crowd.hasOpen id = true) (there : crowd.hasOpen other = true) : id = other := by
  rw [orderly.agrees] at here there
  exact orderly.serves.having_unique rfl (congrArg some same.symm)
    (Turn.standing_of_hasTransaction here) (Turn.standing_of_hasTransaction there)

/-- Of two updates of one instance that go on in turn, the second waits while the first has its
transaction open. -/
example :
    let message := fun _ => Message.update { linkingHash := "h", jars := JarSet.empty }
    let turns := [.proceed 0, .proceed 1, .proceed 0, .proceed 1, .proceed 0, .proceed 1]
    let crowd := run (fun _ => MemoryStore.store) message (start {}) turns
    (crowd.hasOpen 0, crowd.hasOpen 1) = (true, false) := by
  decide

end Crowd
end JarLedger
