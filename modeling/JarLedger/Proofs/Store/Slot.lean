import JarLedger.Proofs.Store.Catalogue

/-!
# One linking hash at a time

A message acts on what is held under its linking hash, and on the jars ever seen.  So what messages
do under a linking hash is foretold from those of them that are about it (`Catalogue.settleAll_at`),
whatever comes between them and whatever numbers are given.
-/

namespace JarLedger

/-- What a message did, whatever the number of the instance. -/
inductive Effect where
  | inserted
  | merged (added : Nat)
  deriving DecidableEq, Repr

/-- What was done, without the number. -/
def Reconciled.effect : Reconciled → Effect
  | .inserted _ => .inserted
  | .merged _ added => .merged added

namespace Message

/-- Whether a message is about the instance with a linking hash. -/
def isAbout (linkingHash : String) (message : Message) : Bool :=
  message.linkingHash = linkingHash

/-- All jars that a message brings. -/
def allJars : Message → JarSet
  | .newInstance new => new.allJars
  | .update delta => delta.jars

/-- What a message does to what is held under its linking hash. -/
def settle : Message → Option LedgerEntry → Except IngestError Effect × Option LedgerEntry
  | .newInstance new, none => (.ok .inserted, some ⟨new, new.machine.jars.hashes⟩)
  | .newInstance new, some entry =>
      (.error (.persistence (.uniqueViolation new.linkingHash)), some entry)
  | .update delta, none =>
      (.error (.integrity (.unknownLinkingHash delta.linkingHash)), none)
  | .update delta, some entry =>
      (.ok (.merged (Ledger.newHashes entry.jars delta.jars).length),
        some { entry with jars := entry.jars.union delta.jars.hashes })

/-- What messages about one linking hash do one after the other, and what is held then. -/
def settleAll :
    List Message → Option LedgerEntry →
      List (Message × Except IngestError Effect) × Option LedgerEntry
  | [], held => ([], held)
  | message :: rest, held =>
      let settled := message.settle held
      let later := settleAll rest settled.2
      ((message, settled.1) :: later.1, later.2)

end Message

/-- An instance of a catalogue without its number. -/
def Holding.entry (holding : Holding) : LedgerEntry := ⟨holding.described, holding.jars⟩

namespace Catalogue

/-- What is held under a linking hash. -/
def slot (catalogue : Catalogue) (linkingHash : String) : Option LedgerEntry :=
  (catalogue.holdings.get? linkingHash).map Holding.entry

/-- What messages do one after the other, and the catalogue then. -/
def settleAll (catalogue : Catalogue) :
    List Message → List (Message × Except IngestError Reconciled) × Catalogue
  | [] => ([], catalogue)
  | message :: rest =>
      let settled := catalogue.settle message
      let later := settleAll settled.2 rest
      ((message, settled.1) :: later.1, later.2)

/-- A message and what it did, without the number of the instance. -/
def withoutId (entry : Message × Except IngestError Reconciled) :
    Message × Except IngestError Effect :=
  (entry.1, entry.2.map Reconciled.effect)

/-! ## One message -/

theorem effect_settle (catalogue : Catalogue) (message : Message) :
    (catalogue.settle message).1.map Reconciled.effect =
      (message.settle (catalogue.slot message.linkingHash)).1 := by
  cases message with
  | newInstance new =>
      simp only [settle, slot, Message.linkingHash]
      cases catalogue.holdings.get? new.linkingHash <;> rfl
  | update delta =>
      simp only [settle, slot, Message.linkingHash]
      cases catalogue.holdings.get? delta.linkingHash <;> rfl

theorem slot_insert (catalogue : Catalogue) (lastId : InstanceId) (jars : JarSet)
    (holding : Holding) (key linkingHash : String) :
    (⟨lastId, catalogue.holdings.insert key holding, jars⟩ : Catalogue).slot linkingHash =
      if linkingHash = key then some holding.entry else catalogue.slot linkingHash := by
  rw [slot, SortedMap.get?_insert, apply_ite (Option.map Holding.entry)]
  rfl

/-- A message changes nothing under other linking hashes. -/
theorem slot_settle (catalogue : Catalogue) (message : Message) (linkingHash : String) :
    (catalogue.settle message).2.slot linkingHash =
      if linkingHash = message.linkingHash then
        (message.settle (catalogue.slot message.linkingHash)).2
      else catalogue.slot linkingHash := by
  have unchanged : catalogue.slot linkingHash =
      if linkingHash = message.linkingHash then catalogue.slot message.linkingHash
      else catalogue.slot linkingHash := by
    split
    · rename_i same
      rw [same]
    · rfl
  cases message with
  | newInstance new =>
      rw [Message.linkingHash] at unchanged ⊢
      cases held : catalogue.holdings.get? new.linkingHash with
      | none =>
          have free : catalogue.slot new.linkingHash = none := by rw [slot, held]; rfl
          simp only [settle, held, free, slot_insert]
          rfl
      | some holding =>
          have taken : catalogue.slot new.linkingHash = some holding.entry := by
            rw [slot, held]; rfl
          simp only [settle, held]
          exact unchanged.trans (by rw [taken]; rfl)
  | update delta =>
      rw [Message.linkingHash] at unchanged ⊢
      cases held : catalogue.holdings.get? delta.linkingHash with
      | none =>
          have free : catalogue.slot delta.linkingHash = none := by rw [slot, held]; rfl
          simp only [settle, held]
          exact unchanged.trans (by rw [free]; rfl)
      | some holding =>
          have taken : catalogue.slot delta.linkingHash = some holding.entry := by
            rw [slot, held]; rfl
          simp only [settle, held, taken, slot_insert]
          rfl

/-- The jars of a message are noted if it is settled without a failure. -/
theorem contains_jars_settle (catalogue : Catalogue) (message : Message) (hash : String) :
    (catalogue.settle message).2.jars.contains hash =
      (catalogue.jars.contains hash ||
        ((catalogue.settle message).1.toBool && message.allJars.contains hash)) := by
  cases message with
  | newInstance new =>
      simp only [settle]
      cases catalogue.holdings.get? new.linkingHash with
      | none => exact SortedMap.contains_union _ _ _
      | some holding => exact (Bool.or_false _).symm
  | update delta =>
      simp only [settle]
      cases catalogue.holdings.get? delta.linkingHash with
      | none => exact (Bool.or_false _).symm
      | some holding => exact SortedMap.contains_union _ _ _

/-! ## Messages one after the other -/

/-- What messages do under a linking hash is what those about it do. -/
theorem settleAll_at (catalogue : Catalogue) (messages : List Message) (linkingHash : String) :
    ((catalogue.settleAll messages).1.filter fun entry => entry.1.isAbout linkingHash).map
          withoutId =
        (Message.settleAll (messages.filter (Message.isAbout linkingHash))
          (catalogue.slot linkingHash)).1 ∧
      (catalogue.settleAll messages).2.slot linkingHash =
        (Message.settleAll (messages.filter (Message.isAbout linkingHash))
          (catalogue.slot linkingHash)).2 := by
  induction messages generalizing catalogue with
  | nil => exact ⟨rfl, rfl⟩
  | cons message rest ih =>
      obtain ⟨outcomes, held⟩ := ih (catalogue.settle message).2
      rw [slot_settle] at outcomes held
      -- A message about another linking hash drops out on the right and changes nothing here.
      by_cases same : message.linkingHash = linkingHash
      · subst same
        rw [if_pos rfl] at outcomes held
        have about : message.isAbout message.linkingHash = true := decide_eq_true rfl
        simp only [settleAll, List.filter_cons, about, if_true, List.map_cons, outcomes, withoutId,
          effect_settle, Message.settleAll]
        exact ⟨trivial, held⟩
      · rw [if_neg (Ne.symm same)] at outcomes held
        have aside : message.isAbout linkingHash = false := decide_eq_false same
        simp only [settleAll, List.filter_cons, aside, Bool.false_eq_true, if_false]
        exact ⟨outcomes, held⟩

/-- The jars noted are those of the messages settled without a failure. -/
theorem contains_jars_settleAll (catalogue : Catalogue) (messages : List Message)
    (hash : String) :
    (catalogue.settleAll messages).2.jars.contains hash =
      (catalogue.jars.contains hash ||
        ((catalogue.settleAll messages).1.map withoutId).any fun entry =>
          entry.2.toBool && entry.1.allJars.contains hash) := by
  induction messages generalizing catalogue with
  | nil => exact (Bool.or_false _).symm
  | cons message rest ih =>
      have noted : ((catalogue.settle message).1.map Reconciled.effect).toBool =
          (catalogue.settle message).1.toBool := by
        cases (catalogue.settle message).1 <;> rfl
      rw [settleAll, ih, contains_jars_settle, List.map_cons, List.any_cons, withoutId, noted,
        Bool.or_assoc]

theorem counts_eq_of_slot {left right : Catalogue}
    (same : ∀ linkingHash, left.slot linkingHash = right.slot linkingHash)
    (noted : ∀ hash, left.jars.contains hash = right.jars.contains hash) :
    left.counts = right.counts := by
  have entries : left.holdings.map Holding.entry = right.holdings.map Holding.entry := by
    refine SortedMap.ext_get? fun linkingHash => ?_
    rw [SortedMap.get?_map, SortedMap.get?_map]
    exact same linkingHash
  have unnumbered (catalogue : Catalogue) : catalogue.counts =
      (catalogue.holdings.map Holding.entry).entries.foldl
        (fun counts entry => Ledger.addCounts counts (Ledger.countsOf entry.2))
        { jarHashes := catalogue.jars.size } := by
    rw [counts, SortedMap.map, List.foldl_map]
    rfl
  rw [unnumbered, unnumbered, entries, SortedMap.size_eq_of_contains noted]

end Catalogue

/-! ## The store in memory -/

/-- Reconcile messages one after the other, and list what each comes to. -/
def reconcileAll {σ : Type} (store : Store σ) :
    List Message → σ → List (Message × Except IngestError Reconciled) × σ
  | [], state => ([], state)
  | message :: rest, state =>
      let done := reconcile store message state
      let later := reconcileAll store rest done.2
      ((message, done.1) :: later.1, later.2)

/-- Between transactions a store in memory settles messages as its catalogue does. -/
theorem Ledger.Sound.reconcileAll_eq {ledger : Ledger} (sound : ledger.Sound)
    (messages : List Message) :
    ∃ after : Ledger, after.Sound ∧
      reconcileAll MemoryStore.store messages ⟨ledger, none⟩ =
        ((ledger.catalogue.settleAll messages).1, ⟨after, none⟩) ∧
      after.catalogue = (ledger.catalogue.settleAll messages).2 := by
  induction messages generalizing ledger with
  | nil => exact ⟨ledger, sound, rfl, rfl⟩
  | cons message rest ih =>
      obtain ⟨after, kept, outcomes, agree⟩ := ih (sound.settle message)
      refine ⟨after, kept, ?_, ?_⟩
      · rw [reconcileAll, MemoryStore.reconcile_eq_settle]
        dsimp only
        rw [outcomes, Catalogue.settleAll, sound.settle_catalogue]
      · rw [agree, Catalogue.settleAll, sound.settle_catalogue]

end JarLedger
