import JarLedger.Proofs.Store.Slot

/-!
# Messages in another order

Messages about different instances share the numbers that are given and the jars ever seen, and
nothing else.  So messages may be reconciled in any order in which those about one instance keep
theirs: apart from numbers, each comes to the same, and the store can be read back alike
(`MemoryStore.reconcileAll_reordered`).
-/

namespace JarLedger

/-- Two sequences of messages have the same messages about each instance, in the same order. -/
def Message.Reordered (left right : List Message) : Prop :=
  ∀ linkingHash, left.filter (Message.isAbout linkingHash) =
    right.filter (Message.isAbout linkingHash)

/-- A stored instance without its number. -/
def StoredInstance.withoutId (stored : StoredInstance) : StoredInstance := { stored with id := 0 }

namespace Catalogue

variable {left right : List Message}

/-- What the messages about one instance come to, and what is held of it then, is the same in
either order. -/
theorem settleAll_reordered (reordered : Message.Reordered left right) (catalogue : Catalogue)
    (linkingHash : String) :
    ((catalogue.settleAll left).1.filter fun entry => entry.1.isAbout linkingHash).map
          withoutId =
        ((catalogue.settleAll right).1.filter fun entry => entry.1.isAbout linkingHash).map
          withoutId ∧
      (catalogue.settleAll left).2.slot linkingHash =
        (catalogue.settleAll right).2.slot linkingHash := by
  obtain ⟨first, held⟩ := catalogue.settleAll_at left linkingHash
  obtain ⟨second, kept⟩ := catalogue.settleAll_at right linkingHash
  rw [first, second, held, kept, reordered linkingHash]
  exact ⟨rfl, rfl⟩

/-- The messages and what they come to are the same in either order. -/
theorem mem_settleAll_reordered (reordered : Message.Reordered left right)
    (catalogue : Catalogue) (entry : Message × Except IngestError Effect) :
    entry ∈ (catalogue.settleAll left).1.map withoutId ↔
      entry ∈ (catalogue.settleAll right).1.map withoutId := by
  have about (messages : List Message) :
      entry ∈ (catalogue.settleAll messages).1.map withoutId ↔
        entry ∈ ((catalogue.settleAll messages).1.filter fun other =>
          other.1.isAbout entry.1.linkingHash).map withoutId := by
    simp only [List.mem_map, List.mem_filter]
    constructor
    · rintro ⟨other, member, rfl⟩
      exact ⟨other, ⟨member, decide_eq_true rfl⟩, rfl⟩
    · rintro ⟨other, ⟨member, -⟩, same⟩
      exact ⟨other, member, same⟩
  rw [about, about, (catalogue.settleAll_reordered reordered _).1]

theorem contains_jars_reordered (reordered : Message.Reordered left right)
    (catalogue : Catalogue) (hash : String) :
    (catalogue.settleAll left).2.jars.contains hash =
      (catalogue.settleAll right).2.jars.contains hash := by
  rw [contains_jars_settleAll, contains_jars_settleAll]
  congr 1
  rw [Bool.eq_iff_iff, List.any_eq_true, List.any_eq_true]
  simp only [catalogue.mem_settleAll_reordered reordered]

end Catalogue

/-- Read back without its number, an instance is what its catalogue holds under the linking hash. -/
theorem Ledger.Sound.find_withoutId {ledger : Ledger} (sound : ledger.Sound)
    (linkingHash : String) :
    (ledger.find linkingHash).map (Option.map StoredInstance.withoutId) =
      .ok ((ledger.catalogue.slot linkingHash).map (Ledger.view 0)) := by
  rw [sound.find_catalogue, Catalogue.slot]
  cases ledger.catalogue.holdings.get? linkingHash <;> rfl

/-- Whatever a store in memory went through before, messages in another order, in which those about
one instance keep theirs, come to the same apart from numbers, and leave the same counts and the
same instances to read back. -/
theorem MemoryStore.reconcileAll_reordered (past : List Errand) (left right : List Message)
    (reordered : Message.Reordered left right) :
    let start := (Errand.serveAll store past {}).2
    let first := reconcileAll store left start
    let second := reconcileAll store right start
    (∀ linkingHash,
        (first.1.filter fun entry => entry.1.isAbout linkingHash).map Catalogue.withoutId =
          (second.1.filter fun entry => entry.1.isAbout linkingHash).map Catalogue.withoutId) ∧
      (store.counts first.2).1 = (store.counts second.2).1 ∧
      ∀ linkingHash,
        (store.find linkingHash first.2).1.map (Option.map StoredInstance.withoutId) =
          (store.find linkingHash second.2).1.map (Option.map StoredInstance.withoutId) := by
  obtain ⟨ledger, sound, served, -⟩ := Ledger.Sound.serveAll_eq Ledger.sound_empty past
  obtain ⟨after, kept, settled, agree⟩ := sound.reconcileAll_eq left
  obtain ⟨other, also, resettled, coincide⟩ := sound.reconcileAll_eq right
  have same := ledger.catalogue.settleAll_reordered reordered
  intro start first second
  have begun : start = ⟨ledger, none⟩ := congrArg Prod.snd served
  have ended : first = ((ledger.catalogue.settleAll left).1, ⟨after, none⟩) := by
    rw [← settled, ← begun]
  have reended : second = ((ledger.catalogue.settleAll right).1, ⟨other, none⟩) := by
    rw [← resettled, ← begun]
  rw [ended, reended]
  refine ⟨fun linkingHash => (same linkingHash).1, ?_, fun linkingHash => ?_⟩
  · refine congrArg Except.ok (?_ : after.counts = other.counts)
    rw [kept.counts_catalogue, also.counts_catalogue, agree, coincide]
    exact Catalogue.counts_eq_of_slot (fun linkingHash => (same linkingHash).2)
      (ledger.catalogue.contains_jars_reordered reordered)
  · refine (kept.find_withoutId linkingHash).trans (Eq.trans ?_
      (also.find_withoutId linkingHash).symm)
    rw [agree, coincide, (same linkingHash).2]

/-- A machine of which only the linking hash and the jars are known. -/
def Jvm.bare (linkingHash : String) (jars : JarSet) : Jvm where
  linkingHash
  accountId := none
  orgId := ""
  created := ⟨0, 0⟩
  hostname := ""
  launchTime := 0
  vendor := none
  versionString := none
  version := none
  heapMin := none
  heapMax := none
  processors := none
  javaHome := none
  javaClassPath := none
  pid := none
  details := .null
  jars

/-- Two machines with a jar in common, one of them updated, and an update of a third. -/
def pairedMessages : List Message :=
  let jars := JarSet.ofList [⟨"x", {}⟩]
  [.newInstance (.jvm (.bare "a" jars)), .newInstance (.jvm (.bare "b" jars)),
    .update ⟨"a", JarSet.ofList [⟨"y", {}⟩]⟩, .update ⟨"c", jars⟩]

/-- The same messages, of which only the two about the first machine come in the old order. -/
def shuffledMessages : List Message :=
  let jars := JarSet.ofList [⟨"x", {}⟩]
  [.update ⟨"c", jars⟩, .newInstance (.jvm (.bare "b" jars)), .newInstance (.jvm (.bare "a" jars)),
    .update ⟨"a", JarSet.ofList [⟨"y", {}⟩]⟩]

theorem MemoryStore.counts_shuffledMessages :
    Message.Reordered pairedMessages shuffledMessages ∧
      (store.counts (reconcileAll store pairedMessages {}).2).1 =
        (store.counts (reconcileAll store shuffledMessages {}).2).1 := by
  have reordered : Message.Reordered pairedMessages shuffledMessages := by
    intro linkingHash
    simp only [pairedMessages, shuffledMessages, List.filter_cons, Message.isAbout,
      Message.linkingHash, Instance.linkingHash, Instance.machine, Jvm.bare]
    by_cases first : "a" = linkingHash
    · subst first
      simp
    · by_cases second : "b" = linkingHash
      · subst second
        simp
      · by_cases third : "c" = linkingHash
        · subst third
          simp
        · simp [first, second, third]
  exact ⟨reordered, (reconcileAll_reordered [] _ _ reordered).2.1⟩

end JarLedger
