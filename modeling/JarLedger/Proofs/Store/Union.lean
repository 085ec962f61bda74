import JarLedger.Proofs.Store.Refinement
import JarLedger.Proofs.Store.Reflection
import JarLedger.Proofs.Store.Reordering
import Mathlib.Algebra.GroupWithZero.Nat

/-!
# Updates add up to a union

Whatever updates of an instance come, in whatever order and however often, the instance ends with
its jars and all of theirs, and the counts they report add up to what is new.  An update that came
before changes nothing (`MemoryStore.reconcileAll_union`).
-/

namespace JarLedger

/-- Whether an update of an instance brings a jar. -/
def Message.Brings (linkingHash : String) (messages : List Message) (hash : String) : Prop :=
  ∃ delta, .update delta ∈ messages ∧ delta.linkingHash = linkingHash ∧
    delta.jars.contains hash = true

/-- How many jars a message added to an instance. -/
def Reconciled.added : Reconciled → Nat
  | .inserted _ => 0
  | .merged _ added => added

/-- How many jars messages about an instance added to it, as they report. -/
def addedTo (linkingHash : String)
    (outcomes : List (Message × Except IngestError Reconciled)) : Nat :=
  ((outcomes.filter fun entry => entry.1.isAbout linkingHash).map fun entry =>
    match entry.2 with
    | .ok reconciled => reconciled.added
    | .error _ => 0).sum

theorem addedTo_cons (linkingHash : String) (entry : Message × Except IngestError Reconciled)
    (rest : List (Message × Except IngestError Reconciled)) :
    addedTo linkingHash (entry :: rest) =
      addedTo linkingHash [entry] + addedTo linkingHash rest := by
  simp only [addedTo, List.filter_cons, List.filter_nil]
  split <;> simp

namespace Message

variable {linkingHash hash : String} {message : Message} {rest : List Message}

theorem brings_cons : Brings linkingHash (message :: rest) hash ↔
    Brings linkingHash [message] hash ∨ Brings linkingHash rest hash := by
  simp only [Brings, List.mem_cons, List.not_mem_nil, or_false]
  constructor
  · rintro ⟨delta, here | later, about, inside⟩
    · exact .inl ⟨delta, here, about, inside⟩
    · exact .inr ⟨delta, later, about, inside⟩
  · rintro (⟨delta, here, about, inside⟩ | ⟨delta, later, about, inside⟩)
    · exact ⟨delta, .inl here, about, inside⟩
    · exact ⟨delta, .inr later, about, inside⟩

theorem brings_update {delta : Delta} : Brings delta.linkingHash [.update delta] hash ↔
    delta.jars.contains hash = true := by
  constructor
  · rintro ⟨other, member, -, inside⟩
    obtain rfl := Message.update.inj (List.mem_singleton.mp member)
    exact inside
  · intro inside
    exact ⟨delta, List.mem_singleton_self _, rfl, inside⟩

theorem not_brings_newInstance {new : Instance} :
    ¬ Brings linkingHash [.newInstance new] hash := by
  rintro ⟨delta, member, -, -⟩
  cases List.mem_singleton.mp member

theorem not_brings_of_apart (apart : message.linkingHash ≠ linkingHash) :
    ¬ Brings linkingHash [message] hash := by
  rintro ⟨delta, member, about, -⟩
  obtain rfl := List.mem_singleton.mp member
  exact apart about

end Message

namespace Catalogue

variable {catalogue : Catalogue} {linkingHash : String} {holding : Holding}

theorem sameBeside_settle (catalogue : Catalogue) (message : Message) :
    SameBeside message.linkingHash catalogue (catalogue.settle message).2 := by
  have meets := catalogue.meets_serve (.reconcile message)
  cases message with
  | newInstance new => exact meets.1
  | update delta => exact meets.1

/-- What a message does to an instance that is held: its jars grow by those that an update of it
brings, and by as many as the update reports. -/
theorem settle_union (held : catalogue.holdings.get? linkingHash = some holding)
    (message : Message) :
    ∃ jars,
      (catalogue.settle message).2.holdings.get? linkingHash = some { holding with jars } ∧
      (∀ hash, jars.contains hash = true ↔
        holding.jars.contains hash = true ∨ Message.Brings linkingHash [message] hash) ∧
      jars.size = holding.jars.size +
        addedTo linkingHash [(message, (catalogue.settle message).1)] ∧
      ∀ delta, message = .update delta → delta.linkingHash = linkingHash →
        ∃ added, (catalogue.settle message).1 = .ok (.merged holding.id added) := by
  by_cases about : message.linkingHash = linkingHash
  · subst about
    have counted : message.isAbout message.linkingHash = true := decide_eq_true rfl
    cases message with
    | newInstance new =>
        rw [Message.linkingHash] at held
        -- An instance that is held is not stored a second time.
        have refused : catalogue.settle (.newInstance new) =
            (.error (.persistence (.uniqueViolation new.linkingHash)), catalogue) := by
          simp only [settle, held]
        rw [refused]
        refine ⟨holding.jars, held, fun hash => ?_, ?_, ?_⟩
        · rw [or_iff_left Message.not_brings_newInstance]
        · simp [addedTo, counted]
        · rintro delta ⟨⟩
    | update delta =>
        have meets := catalogue.meets_serve (.reconcile (.update delta))
        rw [Message.linkingHash] at held
        simp only [Meets, held, serve] at meets
        obtain ⟨-, jars, added, answered, kept, contained, size⟩ := meets
        have merged : (catalogue.settle (.update delta)).1 = .ok (.merged holding.id added) :=
          Answer.reconciled.inj answered
        refine ⟨jars, kept, fun hash => ?_, ?_, ?_⟩
        · rw [contained, Bool.or_eq_true, Message.linkingHash, Message.brings_update]
        · rw [merged, size]
          simp [addedTo, counted, Reconciled.added]
        · rintro _ ⟨⟩ -
          exact ⟨added, merged⟩
  · have aside : message.isAbout linkingHash = false := decide_eq_false about
    refine ⟨holding.jars, ?_, fun hash => ?_, ?_, ?_⟩
    · rw [catalogue.sameBeside_settle message linkingHash (Ne.symm about), held]
    · rw [or_iff_left (Message.not_brings_of_apart about)]
    · simp [addedTo, aside]
    · rintro delta rfl same
      exact absurd same about

/-- What messages do to an instance that is held, one after the other. -/
theorem settleAll_union (held : catalogue.holdings.get? linkingHash = some holding)
    (messages : List Message) :
    ∃ jars,
      (catalogue.settleAll messages).2.holdings.get? linkingHash = some { holding with jars } ∧
      (∀ hash, jars.contains hash = true ↔
        holding.jars.contains hash = true ∨ Message.Brings linkingHash messages hash) ∧
      jars.size = holding.jars.size +
        addedTo linkingHash (catalogue.settleAll messages).1 ∧
      ∀ delta result, (.update delta, result) ∈ (catalogue.settleAll messages).1 →
        delta.linkingHash = linkingHash → ∃ added, result = .ok (.merged holding.id added) := by
  induction messages generalizing catalogue holding with
  | nil =>
      refine ⟨holding.jars, held, fun hash => ?_, rfl, nofun⟩
      simp [Message.Brings]
  | cons message rest ih =>
      obtain ⟨first, between, firstContains, firstSize, firstMerged⟩ := settle_union held message
      obtain ⟨jars, kept, contains, size, merged⟩ := ih between
      refine ⟨jars, kept, fun hash => ?_, ?_, ?_⟩
      · rw [contains, firstContains, or_assoc, ← Message.brings_cons]
      · rw [size, firstSize, Nat.add_assoc, ← addedTo_cons, settleAll]
      · intro delta result member about
        rcases List.mem_cons.mp member with here | later
        · obtain ⟨rfl, rfl⟩ := Prod.mk.inj here
          exact firstMerged delta rfl about
        · exact merged delta result later about

/-- A message that was settled without a failure shows after all that came later. -/
theorem reflects_settleAll {messages : List Message} {message : Message}
    {reconciled : Reconciled}
    (settled : (message, .ok reconciled) ∈ (catalogue.settleAll messages).1) :
    (catalogue.settleAll messages).2.Reflects message := by
  -- What shows once shows whatever comes later.
  have lasting (later : List Message) (now : Catalogue) (reflects : now.Reflects message) :
      (now.settleAll later).2.Reflects message := by
    induction later generalizing now with
    | nil => exact reflects
    | cons other later ih => exact ih _ (reflects.settle other)
  induction messages generalizing catalogue with
  | nil => cases settled
  | cons first rest ih =>
      rcases List.mem_cons.mp settled with here | later
      · obtain ⟨rfl, done⟩ := Prod.mk.inj here
        exact lasting rest _ (reflects_of_settled done.symm)
      · exact ih later

theorem fst_settleAll (catalogue : Catalogue) (messages : List Message) :
    (catalogue.settleAll messages).1.map Prod.fst = messages := by
  induction messages generalizing catalogue with
  | nil => rfl
  | cons message rest ih => rw [settleAll, List.map_cons, ih]

end Catalogue

/-- An update of nobody is refused. -/
theorem Ledger.settle_update_of_free {ledger : Ledger} {delta : Delta}
    (free : ledger.byLinkingHash.get? delta.linkingHash = none) :
    ledger.settle (.update delta) =
      (.error (.integrity (.unknownLinkingHash delta.linkingHash)), ledger) := by
  simp only [settle, lookup_of_free free]

namespace Ledger.Sound

variable {ledger : Ledger} {linkingHash : String} {holding : Holding}

/-- What is read back of an instance after messages. -/
theorem find_reconcileAll (sound : ledger.Sound)
    (held : ledger.catalogue.holdings.get? linkingHash = some holding)
    (messages : List Message) :
    ∃ after jars, after.Sound ∧
      reconcileAll MemoryStore.store messages ⟨ledger, none⟩ =
        ((ledger.catalogue.settleAll messages).1, ⟨after, none⟩) ∧
      after.catalogue = (ledger.catalogue.settleAll messages).2 ∧
      after.catalogue.holdings.get? linkingHash = some { holding with jars } ∧
      after.find linkingHash = .ok (some (view holding.id ⟨holding.described, jars⟩)) ∧
      ∀ hash, jars.contains hash = true ↔
        holding.jars.contains hash = true ∨ Message.Brings linkingHash messages hash := by
  obtain ⟨after, kept, settled, agree⟩ := sound.reconcileAll_eq messages
  obtain ⟨jars, heldAfter, contains, -, -⟩ := Catalogue.settleAll_union held messages
  rw [← agree] at heldAfter
  refine ⟨after, jars, kept, settled, agree, heldAfter, ?_, contains⟩
  rw [kept.find_catalogue, heldAfter]
  rfl

/-- An update of an instance that is held adds its jars to it and touches no other instance. -/
theorem settle_update (sound : ledger.Sound) {delta : Delta}
    (held : ledger.catalogue.holdings.get? delta.linkingHash = some holding) :
    let settled := ledger.settle (.update delta)
    (∃ added, settled.1 = .ok (.merged holding.id added)) ∧
      settled.2.find delta.linkingHash = .ok (some (view holding.id
        ⟨holding.described, holding.jars.union delta.jars.hashes⟩)) ∧
      ∀ other, other ≠ delta.linkingHash → settled.2.find other = ledger.find other := by
  intro settled
  have agrees := sound.settle_catalogue (.update delta)
  simp only [Catalogue.settle, held, Prod.mk.injEq] at agrees
  obtain ⟨answered, after⟩ := agrees
  have kept := sound.settle (.update delta)
  refine ⟨⟨_, answered.symm⟩, ?_, fun other apart => ?_⟩
  · rw [kept.find_catalogue, ← after]
    simp [SortedMap.get?_insert]
  · rw [kept.find_catalogue, ← after, sound.find_catalogue]
    simp [SortedMap.get?_insert, apart]

/-- An update that shows adds nothing. -/
theorem settle_update_of_reflects (sound : ledger.Sound) {delta : Delta}
    (held : ledger.catalogue.holdings.get? delta.linkingHash = some holding)
    (reflects : ledger.catalogue.Reflects (.update delta)) :
    ledger.settle (.update delta) = (.ok (.merged holding.id 0), ledger) := by
  obtain ⟨entry, found, shown⟩ := reflects
  have same : holding.entry = entry := by
    rw [Catalogue.slot, held] at found
    exact Option.some.inj found
  have known : (delta.jars.keys.filter fun hash => !holding.jars.contains hash) = [] := by
    refine List.filter_eq_nil_iff.mpr fun hash member => ?_
    have present := (shown hash ((SortedMap.mem_keys _ _).mp member)).1
    rw [← same] at present
    simp [show holding.jars.contains hash = true from present]
  have answer := congrArg Prod.fst (sound.settle_catalogue (.update delta))
  simp only [Catalogue.settle, held, known, List.length_nil] at answer
  exact Prod.ext answer.symm (sound.settle_of_reflects ⟨entry, found, shown⟩)

end Ledger.Sound

/-- Whatever a store in memory went through before, messages of any kinds and in any order leave an
instance with its jars and those of all its updates, and with nothing else changed.  Each update of
it succeeds, and the counts of the updates add up to the jars that were new.  Other messages with
the same updates leave it the same.  An update that came already reports none added and leaves the
whole store as it is. -/
theorem MemoryStore.reconcileAll_union (past : List Errand) (linkingHash : String)
    (before : StoredInstance) (messages : List Message)
    (stored : (store.find linkingHash (Errand.serveAll store past {}).2).1 = .ok (some before)) :
    let start := (Errand.serveAll store past {}).2
    let done := reconcileAll store messages start
    ∃ jars,
      (store.find linkingHash done.2).1 = .ok (some { before with jars }) ∧
      (∀ hash, jars.contains hash = true ↔
        before.jars.contains hash = true ∨ Message.Brings linkingHash messages hash) ∧
      (∀ delta result, (.update delta, result) ∈ done.1 → delta.linkingHash = linkingHash →
        ∃ added, result = .ok (.merged before.id added)) ∧
      addedTo linkingHash done.1 =
        (jars.keys.filter fun hash => !before.jars.contains hash).length ∧
      (∀ others : List Message,
        (∀ delta, delta.linkingHash = linkingHash →
          (.update delta ∈ others ↔ .update delta ∈ messages)) →
        (store.find linkingHash (reconcileAll store others start).2).1 =
          (store.find linkingHash done.2).1) ∧
      ∀ delta, .update delta ∈ messages → delta.linkingHash = linkingHash →
        reconcile store (.update delta) done.2 = (.ok (.merged before.id 0), done.2) := by
  obtain ⟨ledger, sound, served, -⟩ := Ledger.Sound.serveAll_eq Ledger.sound_empty past
  have begun : (Errand.serveAll store past {}).2 = ⟨ledger, none⟩ := congrArg Prod.snd served
  rw [begun] at stored ⊢
  change ledger.find linkingHash = .ok (some before) at stored
  rw [sound.find_catalogue] at stored
  obtain ⟨holding, held, rfl⟩ := Option.map_eq_some_iff.mp (Except.ok.inj stored)
  obtain ⟨after, jars, kept, settled, agree, heldAfter, found, contains⟩ :=
    sound.find_reconcileAll held messages
  obtain ⟨same, heldSame, -, size, merged⟩ := Catalogue.settleAll_union held messages
  obtain rfl : jars = same := by
    rw [← agree, heldAfter] at heldSame
    exact congrArg Holding.jars (Option.some.inj heldSame)
  intro start done
  have ended : done = ((ledger.catalogue.settleAll messages).1, ⟨after, none⟩) := settled
  rw [ended]
  refine ⟨jars, found, contains, merged, ?_, ?_, ?_⟩
  · -- All jars of the instance are still there, so the union with them is what it has now.
    have grown : holding.jars.union jars = jars := StringSet.ext_contains fun hash => by
      rw [SortedMap.contains_union, Bool.eq_iff_iff, Bool.or_eq_true, or_iff_right_iff_imp]
      exact fun present => (contains hash).mpr (.inl present)
    have counted := SortedMap.size_union holding.jars jars
    rw [grown, size] at counted
    exact Nat.add_left_cancel counted
  · intro others alike
    obtain ⟨other, theirs, -, resettled, -, -, refound, recontains⟩ :=
      sound.find_reconcileAll held others
    obtain rfl : theirs = jars := StringSet.ext_contains fun hash => by
      rw [Bool.eq_iff_iff, recontains, contains]
      refine or_congr_right (exists_congr fun delta => ?_)
      rw [and_congr_left_iff]
      exact fun about => alike delta about.1
    rw [show reconcileAll store others start = _ from resettled]
    exact refound.trans found.symm
  · rintro delta member rfl
    obtain ⟨⟨message, result⟩, outcome, rfl⟩ : ∃ entry ∈ (ledger.catalogue.settleAll messages).1,
        entry.1 = .update delta := by
      rw [← ledger.catalogue.fst_settleAll messages] at member
      exact List.mem_map.mp member
    obtain ⟨added, rfl⟩ := merged delta result outcome rfl
    have reflects := Catalogue.reflects_settleAll outcome
    rw [← agree] at reflects
    rw [reconcile_eq_settle, kept.settle_update_of_reflects heldAfter reflects]
    rfl

/-- Updates of one machine that overlap, one of them twice, with another machine in between. -/
def overlappingUpdates : List Message :=
  let more := JarSet.ofList [⟨"y", {}⟩, ⟨"z", {}⟩]
  [.update ⟨"a", more⟩, .newInstance (.jvm (.bare "b" more)),
    .update ⟨"a", JarSet.ofList [⟨"x", {}⟩, ⟨"z", {}⟩]⟩, .update ⟨"a", more⟩]

/-- Of the jars in the updates two are new, and the first update changes nothing any more. -/
theorem MemoryStore.added_overlappingUpdates :
    let machine : Instance := .jvm (.bare "a" (JarSet.ofList [⟨"x", {}⟩]))
    let past : List Errand := [.reconcile (.newInstance machine)]
    let before := Ledger.view 1 ⟨machine, machine.machine.jars.hashes⟩
    let start := (Errand.serveAll store past {}).2
    let done := reconcileAll store overlappingUpdates start
    (store.find "a" start).1 = .ok (some before) ∧
      (∃ jars, (store.find "a" done.2).1 = .ok (some { before with jars }) ∧
        addedTo "a" done.1 =
          (jars.keys.filter fun hash => !before.jars.contains hash).length) ∧
      addedTo "a" done.1 = 2 ∧
      reconcile store (.update ⟨"a", JarSet.ofList [⟨"y", {}⟩, ⟨"z", {}⟩]⟩) done.2 =
        (.ok (.merged 1 0), done.2) := by
  intro machine past before start done
  have stored : (store.find "a" start).1 = .ok (some before) := by
    simp only [start, past, Errand.serveAll, serve_eq]
    rfl
  obtain ⟨jars, found, -, -, counted, -, again⟩ :=
    reconcileAll_union past "a" before overlappingUpdates stored
  exact ⟨stored, ⟨jars, found, counted⟩, by decide +kernel, again _ List.mem_cons_self rfl⟩

end JarLedger
