import JarLedger.Proofs.Store.Slot

/-!
# Messages that change nothing any more

A message that was settled once shows in what is held (`Catalogue.Reflects`), and goes on showing
whatever messages come later, since nothing but a removal takes anything away.  While it shows, to
settle it again leaves the ledger exactly as it is (`Ledger.Sound.settle_of_reflects`).
-/

namespace JarLedger
namespace Catalogue

/-- Whether a message shows: there is an instance under its linking hash, and the jars of an update
are among those of the instance and among those ever seen. -/
def Reflects (catalogue : Catalogue) : Message → Prop
  | .newInstance new => ∃ entry, catalogue.slot new.linkingHash = some entry
  | .update delta => ∃ entry, catalogue.slot delta.linkingHash = some entry ∧
      ∀ hash, delta.jars.contains hash = true →
        entry.jars.contains hash = true ∧ catalogue.jars.contains hash = true

variable {catalogue : Catalogue}

/-- Messages take no instance away, and no jars from one. -/
theorem slot_grows {linkingHash : String} {entry : LedgerEntry}
    (held : catalogue.slot linkingHash = some entry) (message : Message) :
    ∃ after, (catalogue.settle message).2.slot linkingHash = some after ∧
      ∀ hash, entry.jars.contains hash = true → after.jars.contains hash = true := by
  rw [slot_settle]
  by_cases same : linkingHash = message.linkingHash
  · rw [if_pos same, ← same, held]
    cases message with
    | newInstance new => exact ⟨entry, rfl, fun _ => id⟩
    | update delta =>
        refine ⟨_, rfl, fun hash present => ?_⟩
        rw [SortedMap.contains_union, present, Bool.true_or]
  · rw [if_neg same]
    exact ⟨entry, held, fun _ => id⟩

theorem jars_grow {hash : String} (noted : catalogue.jars.contains hash = true)
    (message : Message) : (catalogue.settle message).2.jars.contains hash = true := by
  rw [contains_jars_settle, noted, Bool.true_or]

/-- A message that shows goes on showing. -/
theorem Reflects.settle {message : Message} (reflects : catalogue.Reflects message)
    (other : Message) : (catalogue.settle other).2.Reflects message := by
  cases message with
  | newInstance new =>
      obtain ⟨entry, held⟩ := reflects
      obtain ⟨after, kept, -⟩ := slot_grows held other
      exact ⟨after, kept⟩
  | update delta =>
      obtain ⟨entry, held, shown⟩ := reflects
      obtain ⟨after, kept, grown⟩ := slot_grows held other
      refine ⟨after, kept, fun hash present => ?_⟩
      exact ⟨grown hash (shown hash present).1, jars_grow (shown hash present).2 other⟩

/-- A message that is settled without a failure shows. -/
theorem reflects_of_settled {message : Message} {reconciled : Reconciled}
    (settled : (catalogue.settle message).1 = .ok reconciled) :
    (catalogue.settle message).2.Reflects message := by
  have effect := catalogue.effect_settle message
  have held := catalogue.slot_settle message message.linkingHash
  rw [settled] at effect
  rw [if_pos rfl] at held
  cases message with
  | newInstance new =>
      rw [Message.linkingHash] at effect held
      cases found : catalogue.slot new.linkingHash with
      | none => exact ⟨_, by rw [held, found]; rfl⟩
      | some entry =>
          rw [found] at effect
          cases effect
  | update delta =>
      rw [Message.linkingHash] at effect held
      cases found : catalogue.slot delta.linkingHash with
      | none =>
          rw [found] at effect
          cases effect
      | some entry =>
          refine ⟨_, by rw [held, found]; rfl, fun hash present => ⟨?_, ?_⟩⟩
          · rw [SortedMap.contains_union, JarSet.contains_hashes, present, Bool.or_true]
          · have noted := catalogue.contains_jars_settle (.update delta) hash
            rw [settled] at noted
            rw [noted, Message.allJars, present, Except.toBool, Bool.and_true, Bool.or_true]

end Catalogue

namespace Ledger

theorem remember_of_known {ledger : Ledger} {jars : JarSet}
    (known : ∀ hash, jars.contains hash = true → ledger.jars.contains hash = true) :
    ledger.remember jars = ledger := by
  rw [remember, SortedMap.union_of_known known]

theorem Sound.setJars_self {ledger : Ledger} (sound : ledger.Sound) {id : InstanceId}
    {entry : LedgerEntry} (member : (id, entry) ∈ ledger.entries) :
    Ledger.setJars ledger.entries id entry.jars = ledger.entries := by
  rw [Ledger.setJars]
  refine (List.map_congr_left fun other inside => ?_).trans (List.map_id _)
  split
  · rename_i same
    obtain ⟨number, stored⟩ := other
    obtain rfl : number = id := same
    rw [sound.entry_unique inside member]
    rfl
  · rfl

/-- To settle a message that shows changes nothing. -/
theorem Sound.settle_of_reflects {ledger : Ledger} (sound : ledger.Sound) {message : Message}
    (reflects : ledger.catalogue.Reflects message) : (ledger.settle message).2 = ledger := by
  cases message with
  | newInstance new =>
      obtain ⟨entry, held⟩ := reflects
      obtain ⟨holding, found, -⟩ := Option.map_eq_some_iff.mp held
      have taken : ledger.byLinkingHash.get? new.linkingHash = some holding.id := by
        rw [sound.byLinkingHash_eq, found]
        rfl
      rw [Ledger.settle, insert_of_taken taken]
  | update delta =>
      obtain ⟨entry, held, shown⟩ := reflects
      obtain ⟨holding, found, rfl⟩ := Option.map_eq_some_iff.mp held
      have index : ledger.byLinkingHash.get? delta.linkingHash = some holding.id := by
        rw [sound.byLinkingHash_eq, found]
        rfl
      have stored := sound.entry?_of_get?_catalogue found
      have present : holding.jars.union delta.jars.hashes = holding.jars :=
        SortedMap.union_of_known fun hash inside =>
          (shown hash (by rwa [JarSet.contains_hashes] at inside)).1
      rw [Ledger.settle, lookup_of_entry index stored]
      dsimp only
      rw [add_of_entry stored, present, remember_of_known fun hash inside => (shown hash inside).2,
        sound.setJars_self (SortedMap.mem_of_lookup stored)]

end Ledger
end JarLedger
