import JarLedger.KeyedLocks
import JarLedger.Proofs.Store.Errand
import Mathlib.Logic.Function.Basic

/-!
# Calls that contend for one store in memory

Any number of calls are under way at once, each on an errand of its own.  A reconciliation may first
have to get the lock of its linking hash; every call then has to get the lock of the store.  Each
lock goes to the attempts in the order in which they came.  A transaction works on its own copy of
the ledger, and a commit puts that copy in the ledger's place, whatever the ledger has become
meanwhile.  A schedule says which call moves next, and whether it goes on or is cancelled.
-/

namespace JarLedger
namespace Contention

open Reconciliation (Stage)

/-- How far a call is. -/
inductive Phase where
  /-- Nothing is done. -/
  | idle
  /-- It has asked for the lock of its key. -/
  | awaitingKey
  /-- It has that lock, or needs none. -/
  | ready
  /-- It has asked for the lock of the store. -/
  | inLine
  /-- It has the lock of the store, and perhaps a copy of the ledger. -/
  | inside (stage : Stage) (staged : Option Ledger)
  /-- It has given the lock of the store back; a call that was cancelled has no answer. -/
  | leaving (answer : Option Answer)
  /-- It has given the lock of its key back as well. -/
  | tidying (answer : Option Answer)
  /-- It is over. -/
  | gone (answer : Option Answer)

namespace Phase

/-- The answer that a call has come to. -/
def answer? : Phase → Option Answer
  | .leaving answer => answer
  | .tidying answer => answer
  | .gone answer => answer
  | _ => none

/-- Whether a call has the lock of the store. -/
def isInside : Phase → Bool
  | .inside _ _ => true
  | _ => false

/-- Whether a call has asked for the lock of the store and not given it back or up. -/
def isInShop : Phase → Bool
  | .inLine => true
  | .inside _ _ => true
  | _ => false

/-- Whether a call has not had the lock of the store yet. -/
def isEarly : Phase → Bool
  | .idle => true
  | .awaitingKey => true
  | .ready => true
  | .inLine => true
  | _ => false

end Phase

/-- A call with the answer that it has come to. -/
def answerOf? (phase : AttemptId → Phase) (id : AttemptId) : Option (AttemptId × Answer) :=
  (phase id).answer?.map fun answer => (id, answer)

/-- Those of some calls that have come to an answer. -/
def answersOf (phase : AttemptId → Phase) (ids : List AttemptId) : List (AttemptId × Answer) :=
  ids.filterMap (answerOf? phase)

/-- A store in memory and the calls at it. -/
structure Scene where
  /-- The locks of linking hashes. -/
  keyed : KeyedLocks := {}
  /-- The ledger that everyone sees. -/
  committed : Ledger
  /-- The attempts to get the lock of the store, the earliest first; the first one has it. -/
  line : List AttemptId := []
  /-- The calls that have got the lock of the store, in the order in which they got it. -/
  entered : List AttemptId := []
  /-- How far each call is. -/
  phase : AttemptId → Phase := fun _ => .idle

/-- What may happen to a call next. -/
inductive Move where
  /-- It goes on, if it need not wait. -/
  | proceed
  /-- It is cancelled, unless its work is done. -/
  | cancel
  deriving DecidableEq, Repr

/-- The key whose lock an errand needs first. -/
def key? (serialized : Bool) : Errand → Option String
  | .reconcile message => if serialized then some message.linkingHash else none
  | _ => none

/-- What a call does that has the lock of the store: where it comes to, and the ledger that everyone
sees then.  A reconciliation makes one request of its transaction; other errands are done at
once. -/
def request (errand : Errand) (stage : Stage) (staged : Option Ledger) (committed : Ledger) :
    Phase × Ledger :=
  match errand with
  | .reconcile message =>
      let next := Reconciliation.step MemoryStore.store message stage ⟨committed, staged⟩
      match next.1.result? with
      | some result => (.leaving (some (.reconciled result)), next.2.committed)
      | none => (.inside next.1 next.2.staged, next.2.committed)
  | errand =>
      let served := errand.serve MemoryStore.store ⟨committed, none⟩
      (.leaving (some served.1), served.2.committed)

namespace Scene

/-- Before any call. -/
def start (ledger : Ledger) : Scene := { committed := ledger }

/-- Say how far a call is. -/
def setPhase (scene : Scene) (id : AttemptId) (phase : Phase) : Scene :=
  { scene with phase := Function.update scene.phase id phase }

/-- The calls that have come to an answer, in the order in which they got the lock of the store. -/
def completed (scene : Scene) : List (AttemptId × Answer) :=
  answersOf scene.phase scene.entered

/-- Whether a call has the lock of its key, as far as it has noticed. -/
def holdsKey (scene : Scene) (id : AttemptId) : Bool :=
  (scene.keyed.attempt? id).any LockAttempt.holds

variable (serialized : Bool) (errand : AttemptId → Errand)

/-- Let a call go on. -/
def proceed (scene : Scene) (id : AttemptId) : Scene :=
  match scene.phase id with
  | .idle =>
      match key? serialized (errand id) with
      | some key => { scene with keyed := scene.keyed.lock key id }.setPhase id .awaitingKey
      | none => scene.setPhase id .ready
  | .awaitingKey =>
      let polled := { scene with keyed := scene.keyed.poll id }
      if polled.holdsKey id then polled.setPhase id .ready else polled
  | .ready => { scene with line := scene.line ++ [id] }.setPhase id .inLine
  | .inLine =>
      if scene.line.head? = some id then
        { scene with entered := scene.entered ++ [id] }.setPhase id (.inside .opening none)
      else scene
  | .inside stage staged =>
      let next := request (errand id) stage staged scene.committed
      { scene with
        committed := next.2
        line := if next.1.isInside then scene.line else scene.line.erase id }.setPhase id next.1
  | .leaving answer =>
      { scene with keyed := scene.keyed.withdraw id }.setPhase id (.tidying answer)
  | .tidying answer =>
      match key? serialized (errand id) with
      | some key => { scene with keyed := scene.keyed.forget key }.setPhase id (.gone answer)
      | none => scene.setPhase id (.gone answer)
  | .gone _ => scene

/-- Cancel a call.  Its copy of the ledger is lost, and its locks are given back. -/
def cancel (scene : Scene) (id : AttemptId) : Scene :=
  match scene.phase id with
  | .idle => scene.setPhase id (.gone none)
  | .awaitingKey => { scene with keyed := scene.keyed.drop id }.setPhase id (.gone none)
  | .ready => scene.setPhase id (.leaving none)
  | .inLine => { scene with line := scene.line.erase id }.setPhase id (.leaving none)
  | .inside _ _ => { scene with line := scene.line.erase id }.setPhase id (.leaving none)
  | _ => scene

/-- Let a call move. -/
def act (scene : Scene) (id : AttemptId) : Move → Scene
  | .proceed => scene.proceed serialized errand id
  | .cancel => scene.cancel id

/-- Let calls move as a schedule says. -/
def run (scene : Scene) (schedule : List (AttemptId × Move)) : Scene :=
  schedule.foldl (fun scene next => scene.act serialized errand next.1 next.2) scene

end Scene
end Contention
end JarLedger
