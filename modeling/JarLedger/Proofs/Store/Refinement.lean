import JarLedger.Proofs.Store.Catalogue

/-!
# The store in memory refines its catalogue

Whatever errands a fresh store in memory is given, it answers as the catalogue does that starts
empty and holds at most one instance under a linking hash.  What each errand may do to a catalogue
and what it has to answer is set down in `Catalogue.Keeps` and `Catalogue.Meets`, apart from how a
catalogue does it: an instance is read back as it was described (`Holding.ReadsAs`), and the rows of
every sort are listed and counted (`Catalogue.tally`).
-/

namespace JarLedger

/-! ## What is read back and counted -/

/-- What is read back of an instance: the machine as it was described, the hashes of its own jars
and of those of its modules, and under the name of a deployment the hashes of the jars of the last
deployment with that name. -/
structure Holding.ReadsAs (holding : Holding) (stored : StoredInstance) : Prop where
  id : stored.id = holding.id
  kind : stored.kind = holding.described.kind
  linkingHash : stored.linkingHash = holding.described.linkingHash
  orgId : stored.orgId = holding.described.machine.orgId
  accountId : stored.accountId = holding.described.machine.accountId
  created : stored.created = holding.described.machine.created
  hostname : stored.hostname = holding.described.machine.hostname
  launchTime : stored.launchTime = holding.described.machine.launchTime
  serverVersion : stored.serverVersion = holding.described.serverVersion
  jars : stored.jars = holding.jars
  moduleJars : ∀ hash, stored.moduleJars.contains hash = holding.described.moduleJars.contains hash
  deploymentJars : ∀ name hashes, stored.deploymentJars.get? name = some hashes ↔
    ∃ earlier last later, holding.described.deployments = earlier ++ last :: later ∧
      (last.name, last.jars.hashes) = (name, hashes) ∧ ∀ other ∈ later, other.name ≠ name

theorem Holding.readsAs_view (holding : Holding) :
    holding.ReadsAs (Ledger.view holding.id ⟨holding.described, holding.jars⟩) where
  id := rfl
  kind := rfl
  linkingHash := rfl
  orgId := rfl
  accountId := rfl
  created := rfl
  hostname := rfl
  launchTime := rfl
  serverVersion := rfl
  jars := rfl
  moduleJars := JarSet.contains_hashes _
  deploymentJars := Ledger.get?_deploymentJars

/-- The server that an instance is, if it is one. -/
def Instance.server? : Instance → Option AppServer
  | .jvm _ => none
  | .appServer server => some server

namespace Catalogue

/-- The rows of every sort that instances stand for, listed and counted, without the jars ever
seen. -/
def rowsOf (held : List Holding) : StoreCounts :=
  let servers := held.filterMap fun holding => holding.described.server?
  let configurations := servers.filterMap AppServer.configuration
  let deployments := configurations.flatMap Configuration.deployments
  let extensions := configurations.flatMap Configuration.extensions
  { instances := held.length
    appServerInstances := servers.length
    configurations := configurations.length
    deployments := deployments.length
    extensions := extensions.length
    extensionSubsystems := (extensions.flatMap Extension.subsystems).length
    configurationSubsystems :=
      (configurations.flatMap fun configuration => configuration.subsystems.keys).length
    instanceJarHashes := (held.flatMap fun holding => holding.jars.keys).length
    moduleJarHashes := (servers.flatMap fun server => server.moduleJars.keys).length
    deploymentJarHashes := (deployments.flatMap fun deployment => deployment.jars.keys).length }

/-- The rows of every sort that there are. -/
def tally (catalogue : Catalogue) : StoreCounts :=
  { rowsOf catalogue.holdings.values with jarHashes := catalogue.jars.keys.length }

theorem length_flatMap_eq_foldr {item row : Type} (items : List item) (rows : item → List row) :
    ((items.flatMap rows).length : Int) =
      items.foldr (fun item (total : Int) => (rows item).length + total) 0 := by
  induction items with
  | nil => rfl
  | cons item rest ih =>
      rw [List.flatMap_cons, List.length_append, Int.natCast_add, ih, List.foldr_cons]

theorem rowsOf_cons (holding : Holding) (rest : List Holding) :
    rowsOf (holding :: rest) = Ledger.addCounts (countsOf holding) (rowsOf rest) := by
  obtain ⟨id, described, jars⟩ := holding
  have keys {value : Type} (map : SortedMap value) : map.keys.length = map.size := by
    rw [SortedMap.keys, SortedMap.size, List.length_map]
  cases described with
  | jvm machine =>
      simp [rowsOf, Instance.server?, Ledger.addCounts, countsOf, Ledger.countsOf, keys,
        Int.add_comm]
  | appServer server =>
      cases found : server.configuration with
      | none =>
          simp [rowsOf, Instance.server?, Ledger.addCounts, countsOf, Ledger.countsOf, keys, found,
            Int.add_comm]
      | some configuration =>
          simp [rowsOf, Instance.server?, Ledger.addCounts, countsOf, Ledger.countsOf, keys, found,
            -List.length_flatMap, length_flatMap_eq_foldr, Int.add_comm]

/-- Counting instance by instance comes to the rows that there are. -/
theorem foldl_countsOf (entries : List (String × Holding)) (start : StoreCounts) :
    entries.foldl (fun counts entry => Ledger.addCounts counts (countsOf entry.2)) start =
      Ledger.addCounts start (rowsOf (entries.map Prod.snd)) := by
  induction entries generalizing start with
  | nil => simp [rowsOf, Ledger.addCounts]
  | cons entry rest ih =>
      rw [List.foldl_cons, ih, List.map_cons, rowsOf_cons]
      simp only [Ledger.addCounts, Int.add_assoc]

theorem counts_eq_tally (catalogue : Catalogue) : catalogue.counts = catalogue.tally := by
  rw [counts, foldl_countsOf]
  simp [Ledger.addCounts, tally, rowsOf, SortedMap.values, SortedMap.size, SortedMap.keys]

/-! ## What every errand keeps and is for -/

/-- What every errand has to keep. -/
structure Keeps (before : Catalogue) (answer : Answer) (after : Catalogue) : Prop where
  /-- A failure leaves everything as it was. -/
  failed : ∀ failure, answer.failure? = some failure → after = before
  /-- A linking hash may be taken or unknown; nothing else fails. -/
  failure_cases : ∀ failure, answer.failure? = some failure →
    (∃ linkingHash, failure = .persistence (.uniqueViolation linkingHash)) ∨
      ∃ linkingHash, failure = .integrity (.unknownLinkingHash linkingHash)
  /-- The jars ever seen stay, with their descriptions. -/
  remembered : ∀ hash label, before.jars.get? hash = some label →
    after.jars.get? hash = some label
  /-- Numbers are not given again. -/
  numbered : before.lastId ≤ after.lastId ∧
    ∀ id, answer.newId? = some id → id = before.lastId + 1 ∧ id = after.lastId

/-- Other linking hashes keep their instances. -/
def SameBeside (linkingHash : String) (before after : Catalogue) : Prop :=
  ∀ sought, sought ≠ linkingHash → after.holdings.get? sought = before.holdings.get? sought

/-- What an errand is for. -/
def Meets (before : Catalogue) (answer : Answer) (after : Catalogue) : Errand → Prop
  | .reconcile (.newInstance new) =>
      SameBeside new.linkingHash before after ∧
      match before.holdings.get? new.linkingHash with
      | some _ =>
          answer = .reconciled (.error (.persistence (.uniqueViolation new.linkingHash)))
      | none =>
          answer = .reconciled (.ok (.inserted after.lastId)) ∧
          after.holdings.get? new.linkingHash =
            some ⟨after.lastId, new, new.machine.jars.hashes⟩
  | .reconcile (.update delta) =>
      SameBeside delta.linkingHash before after ∧
      match before.holdings.get? delta.linkingHash with
      | none =>
          answer = .reconciled (.error (.integrity (.unknownLinkingHash delta.linkingHash)))
      | some holding =>
          ∃ jars added,
            answer = .reconciled (.ok (.merged holding.id added)) ∧
            after.holdings.get? delta.linkingHash = some { holding with jars } ∧
            (∀ hash, jars.contains hash =
              (holding.jars.contains hash || delta.jars.contains hash)) ∧
            jars.size = holding.jars.size + added
  | .find linkingHash =>
      after = before ∧
      match before.holdings.get? linkingHash with
      | none => answer = .found (.ok none)
      | some holding =>
          ∃ stored, answer = .found (.ok (some stored)) ∧ holding.ReadsAs stored
  | .delete linkingHash =>
      SameBeside linkingHash before after ∧ after.jars = before.jars ∧
      answer = .deleted (.ok (before.holdings.contains linkingHash)) ∧
      after.holdings.get? linkingHash = none
  | .counts => after = before ∧ answer = .counted (.ok before.tally)

/-- An errand that succeeds has the jars and the numbers to keep. -/
theorem keeps_of_success {before after : Catalogue} {answer : Answer}
    (succeeds : answer.failure? = none)
    (remembered : ∀ hash label, before.jars.get? hash = some label →
      after.jars.get? hash = some label)
    (numbered : before.lastId ≤ after.lastId ∧
      ∀ id, answer.newId? = some id → id = before.lastId + 1 ∧ id = after.lastId) :
    Keeps before answer after where
  failed := fun failure failed => by rw [succeeds] at failed; cases failed
  failure_cases := fun failure failed => by rw [succeeds] at failed; cases failed
  remembered := remembered
  numbered := numbered

/-- An errand that changes nothing may fail for one of two reasons. -/
theorem keeps_of_same {before : Catalogue} {answer : Answer} (numberless : answer.newId? = none)
    (failure_cases : ∀ failure, answer.failure? = some failure →
      (∃ linkingHash, failure = .persistence (.uniqueViolation linkingHash)) ∨
        ∃ linkingHash, failure = .integrity (.unknownLinkingHash linkingHash)) :
    Keeps before answer before where
  failed := fun _ _ => rfl
  failure_cases := failure_cases
  remembered := fun _ _ known => known
  numbered := ⟨Int.le_refl _, fun id given => by rw [numberless] at given; cases given⟩

theorem keeps_settle (before : Catalogue) (message : Message) :
    Keeps before (.reconciled (before.settle message).1) (before.settle message).2 := by
  cases message with
  | newInstance new =>
      rw [settle]
      split
      · refine keeps_of_same rfl ?_
        rintro failure ⟨⟩
        exact .inl ⟨_, rfl⟩
      · refine keeps_of_success rfl ?_ ⟨Int.le_of_lt (Int.lt_succ _), ?_⟩
        · intro hash label known
          rw [SortedMap.get?_union, known]
          rfl
        · rintro id ⟨⟩
          exact ⟨rfl, rfl⟩
  | update delta =>
      rw [settle]
      split
      · refine keeps_of_same rfl ?_
        rintro failure ⟨⟩
        exact .inr ⟨_, rfl⟩
      · refine keeps_of_success rfl ?_ ⟨Int.le_refl _, ?_⟩
        · intro hash label known
          rw [SortedMap.get?_union, known]
          rfl
        · rintro id ⟨⟩

theorem keeps_serve (before : Catalogue) (errand : Errand) :
    Keeps before (before.serve errand).1 (before.serve errand).2 := by
  have reads {answer : Answer} (succeeds : answer.failure? = none)
      (numberless : answer.newId? = none) : Keeps before answer before :=
    keeps_of_same numberless fun failure failed => by rw [succeeds] at failed; cases failed
  cases errand with
  | reconcile message => exact keeps_settle before message
  | find linkingHash => exact reads rfl rfl
  | delete linkingHash =>
      exact keeps_of_success rfl (fun _ _ known => known) ⟨Int.le_refl _, by rintro id ⟨⟩⟩
  | counts => exact reads rfl rfl

theorem sameBeside_insert (before : Catalogue) (linkingHash : String) (holding : Holding)
    (lastId : InstanceId) (jars : JarSet) :
    SameBeside linkingHash before
      ⟨lastId, before.holdings.insert linkingHash holding, jars⟩ := by
  intro sought different
  rw [SortedMap.get?_insert, if_neg different]

theorem meets_serve (before : Catalogue) (errand : Errand) :
    Meets before (before.serve errand).1 (before.serve errand).2 errand := by
  match errand with
  | .find linkingHash =>
      refine ⟨rfl, ?_⟩
      cases held : before.holdings.get? linkingHash with
      | none => simp only [serve, held, Option.map_none]
      | some holding =>
          simp only [serve, held, Option.map_some]
          exact ⟨_, rfl, holding.readsAs_view⟩
  | .counts => exact ⟨rfl, by rw [serve, counts_eq_tally]⟩
  | .delete linkingHash =>
      refine ⟨fun sought different => ?_, rfl, rfl, ?_⟩
      · exact (SortedMap.get?_erase _ _ _).trans (if_neg different)
      · exact (SortedMap.get?_erase _ _ _).trans (if_pos rfl)
  | .reconcile (.newInstance new) =>
      cases held : before.holdings.get? new.linkingHash with
      | some holding =>
          simp only [Meets, serve, settle, held]
          exact ⟨fun _ _ => rfl, trivial⟩
      | none =>
          simp only [Meets, serve, settle, held]
          refine ⟨sameBeside_insert before _ _ _ _, trivial, ?_⟩
          rw [SortedMap.get?_insert, if_pos rfl]
  | .reconcile (.update delta) =>
      cases held : before.holdings.get? delta.linkingHash with
      | none =>
          simp only [Meets, serve, settle, held]
          exact ⟨fun _ _ => rfl, trivial⟩
      | some holding =>
          simp only [Meets, serve, settle, held]
          refine ⟨sameBeside_insert before _ _ _ _, holding.jars.union delta.jars.hashes, _, rfl,
            ?_, ?_, ?_⟩
          · rw [SortedMap.get?_insert, if_pos rfl]
          · intro hash
            rw [SortedMap.contains_union, JarSet.contains_hashes]
          · rw [SortedMap.size_union, JarSet.hashes, SortedMap.keys_map]

/-- New instances get higher and higher numbers, all above the number given last. -/
theorem numbers_ascend (errands : List Errand) (catalogue : Catalogue) :
    (∀ id ∈ (serveAll errands catalogue).1.filterMap Answer.newId?, catalogue.lastId < id) ∧
      ((serveAll errands catalogue).1.filterMap Answer.newId?).Pairwise (· < ·) := by
  induction errands generalizing catalogue with
  | nil => exact ⟨nofun, List.Pairwise.nil⟩
  | cons errand errands ih =>
      obtain ⟨above, ascend⟩ := ih (catalogue.serve errand).2
      obtain ⟨grows, given⟩ := (keeps_serve catalogue errand).numbered
      rw [serveAll, List.filterMap_cons]
      cases new : (catalogue.serve errand).1.newId? with
      | none => exact ⟨fun id member => Int.lt_of_le_of_lt grows (above id member), ascend⟩
      | some id =>
          obtain ⟨next, last⟩ := given id new
          refine ⟨fun later member => ?_, List.pairwise_cons.mpr ⟨fun later member => ?_, ascend⟩⟩
          · rcases List.mem_cons.mp member with rfl | member
            · exact next ▸ Int.lt_succ _
            · exact Int.lt_of_le_of_lt grows (above later member)
          · exact last ▸ above later member

end Catalogue

/-- A fresh store in memory gives every sequence of errands the answers of an empty catalogue, and
each errand keeps to what it may do there.  No two new instances get one number. -/
theorem MemoryStore.serveAll_fresh (errands : List Errand) :
    (Errand.serveAll MemoryStore.store errands {}).1 = (Catalogue.serveAll errands {}).1 ∧
    (Errand.serveAll MemoryStore.store errands {}).2.committed.catalogue =
      (Catalogue.serveAll errands {}).2 ∧
    ((Catalogue.serveAll errands {}).1.filterMap Answer.newId?).Pairwise (· < ·) ∧
    ∀ (before : Catalogue) (errand : Errand),
      before.Keeps (before.serve errand).1 (before.serve errand).2 ∧
      before.Meets (before.serve errand).1 (before.serve errand).2 errand := by
  obtain ⟨after, _, answers, agree⟩ := Ledger.Sound.serveAll_eq Ledger.sound_empty errands
  refine ⟨congrArg Prod.fst answers, ?_, (Catalogue.numbers_ascend errands {}).2, ?_⟩
  · exact (congrArg (fun outcome => outcome.2.committed.catalogue) answers).trans agree
  · exact fun before errand =>
      ⟨Catalogue.keeps_serve before errand, Catalogue.meets_serve before errand⟩

end JarLedger
