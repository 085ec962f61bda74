import JarLedger.Store.Ledger

/-!
# The store in memory

A transaction works on a copy of the ledger, which takes the ledger's place when the transaction
commits.  While one is open, everything else that needs the ledger has to wait, so transactions
follow one another.
-/

namespace JarLedger

/-- A store in memory. -/
structure MemoryStore where
  /-- The ledger that everyone sees. -/
  committed : Ledger := {}
  /-- The copy that the open transaction works on. -/
  staged : Option Ledger := none

namespace MemoryStore

/-- Whether no transaction is open. -/
def isFree (memory : MemoryStore) : Bool := memory.staged.isNone

/-- The failure of work that needs an open transaction where there is none. -/
def noTransaction : PersistenceError := .inconsistent "no open transaction"

/-- Work on the copy of the open transaction. -/
def onStaged (work : Ledger → Except PersistenceError α × Ledger) : Request MemoryStore α
  | memory =>
      match memory.staged with
      | none => (.error noTransaction, memory)
      | some staged =>
          let (result, staged) := work staged
          (result, { memory with staged := some staged })

/-- Open a transaction. -/
def begin : Request MemoryStore Unit
  | memory => (.ok (), { memory with staged := some memory.committed })

/-- Let the copy take the ledger's place. -/
def commit : Request MemoryStore Unit
  | memory =>
      match memory.staged with
      | none => (.error noTransaction, memory)
      | some staged => (.ok (), { committed := staged, staged := none })

/-- Drop the copy. -/
def abandon (memory : MemoryStore) : MemoryStore := { memory with staged := none }

/-- The store in memory. -/
def store : Store MemoryStore where
  begin := begin
  insert new := onStaged fun ledger => ledger.insert new
  lookup linkingHash := onStaged fun ledger => (.ok (ledger.lookup linkingHash), ledger)
  add id jars := onStaged fun ledger => ledger.add id jars
  commit := commit
  rollback memory := (.ok (), memory.abandon)
  abandon := abandon
  find linkingHash memory := (memory.committed.find linkingHash, memory)
  delete linkingHash memory :=
    let (found, committed) := memory.committed.delete linkingHash
    (.ok found, { memory with committed })
  counts memory := (.ok memory.committed.counts, memory)

end MemoryStore
end JarLedger
