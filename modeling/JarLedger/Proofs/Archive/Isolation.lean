import JarLedger.Proofs.Archive.Payloads
import JarLedger.Proofs.Packing.Archive
import JarLedger.Proofs.Reconciliation.Isolation

/-!
# Documents that fail leave nothing behind

Over a store that isolates its transactions a document that fails changes neither the store nor the
filter, so that without it the others fare the same.  `Pipeline.processArchiveAnnouncement_isolated`
says so of whole archives, together with what their reports hold.
-/

namespace JarLedger

variable {σ : Type}

/-- A workspace that has come as far as another with no more looks at the clock. -/
structure Workspace.Matches (space other : Workspace σ) : Prop where
  store : other.store = space.store
  filter : other.filter = space.filter
  readings : other.readings ≤ space.readings

theorem Workspace.Matches.refl (space : Workspace σ) : space.Matches space :=
  ⟨rfl, rfl, Nat.le_refl _⟩

theorem Workspace.Matches.trans {space other third : Workspace σ} (first : space.Matches other)
    (second : other.Matches third) : space.Matches third :=
  ⟨second.store.trans first.store, second.filter.trans first.filter,
    Nat.le_trans second.readings first.readings⟩

namespace Pipeline

/-- The clock does not move from one look at it until before another. -/
def Stands (pipeline : Pipeline σ) (start finish : Nat) : Prop :=
  ∃ now, ∀ reading, start ≤ reading → reading < finish → pipeline.clock reading = now

variable {pipeline : Pipeline σ} {announcement : Announcement} {payload : String}
  {space other : Workspace σ}

theorem Stands.mono {start finish later earlier : Nat} (stands : pipeline.Stands start finish)
    (starts : start ≤ later) (ends : earlier ≤ finish) : pipeline.Stands later earlier := by
  obtain ⟨now, still⟩ := stands
  exact ⟨now, fun reading after before =>
    still reading (Nat.le_trans starts after) (Nat.lt_of_lt_of_le before ends)⟩

theorem Stands.eq {start finish first second : Nat} (stands : pipeline.Stands start finish)
    (here : start ≤ first ∧ first < finish) (there : start ≤ second ∧ second < finish) :
    pipeline.clock first = pipeline.clock second := by
  obtain ⟨now, still⟩ := stands
  rw [still first here.1 here.2, still second there.1 there.2]

theorem readings_lt_processPayload :
    space.readings <
      (pipeline.processPayload announcement payload .archive space).2.readings := by
  have once : space.readings < space.readings + 1 := Nat.lt_succ_self _
  simp only [processPayload, gate]
  cases space.filter.shouldProcess payload (pipeline.clock space.readings) .archive with
  | false => exact once
  | true =>
      cases Snapshot.classify announcement payload with
      | error failure => exact once
      | ok message =>
          simp only [reconcile]
          rcases JarLedger.reconcile pipeline.store message space.store with ⟨_ | _, after⟩
          · exact once
          · exact Nat.lt_succ_of_lt once

theorem readings_le_processEach (pipeline : Pipeline σ) (announcement : Announcement)
    (payloads : List String) (space : Workspace σ) :
    space.readings ≤ (pipeline.processEach announcement payloads space).2.readings := by
  induction payloads generalizing space with
  | nil => exact Nat.le_refl _
  | cons payload rest ih => exact Nat.le_trans (Nat.le_of_lt readings_lt_processPayload) (ih _)

/-- While the clock stands, matching workspaces give a document one result and match again. -/
theorem processPayload_matches (matching : space.Matches other)
    (stands : pipeline.Stands other.readings
      (pipeline.processPayload announcement payload .archive space).2.readings) :
    (pipeline.processPayload announcement payload .archive other).1 =
        (pipeline.processPayload announcement payload .archive space).1 ∧
      (pipeline.processPayload announcement payload .archive space).2.Matches
        (pipeline.processPayload announcement payload .archive other).2 := by
  obtain ⟨sameStore, sameFilter, fewer⟩ := matching
  have asked : pipeline.clock other.readings = pipeline.clock space.readings :=
    stands.eq ⟨Nat.le_refl _, Nat.lt_of_le_of_lt fewer readings_lt_processPayload⟩
      ⟨fewer, readings_lt_processPayload⟩
  revert stands
  simp only [processPayload, gate, sameFilter, asked]
  cases space.filter.shouldProcess payload (pipeline.clock space.readings) .archive with
  | false => exact fun _ => ⟨rfl, sameStore, rfl, Nat.succ_le_succ fewer⟩
  | true =>
      cases Snapshot.classify announcement payload with
      | error failure => exact fun _ => ⟨rfl, sameStore, rfl, Nat.succ_le_succ fewer⟩
      | ok message =>
          simp only [reconcile, sameStore]
          rcases JarLedger.reconcile pipeline.store message space.store with ⟨_ | _, after⟩
          · exact fun _ => ⟨rfl, rfl, rfl, Nat.succ_le_succ fewer⟩
          · intro stands
            have marked :
                pipeline.clock (other.readings + 1) = pipeline.clock (space.readings + 1) :=
              stands.eq ⟨Nat.le_succ _, Nat.succ_lt_succ (Nat.lt_succ_of_le fewer)⟩
                ⟨Nat.le_succ_of_le fewer, Nat.lt_succ_self _⟩
            refine ⟨rfl, rfl, ?_, Nat.succ_le_succ (Nat.succ_le_succ fewer)⟩
            simp only [mark, marked]

/-- A document leaves an idle store idle, and one that fails changes neither store nor filter. -/
theorem processPayload_isolated (isolation : pipeline.store.Isolation)
    (idle : isolation.Idle space.store) (announcement : Announcement) (payload : String) :
    isolation.Idle (pipeline.processPayload announcement payload .archive space).2.store ∧
      ((pipeline.processPayload announcement payload .archive space).1.isOk = false →
        (pipeline.processPayload announcement payload .archive space).2.Matches space) := by
  simp only [processPayload, gate]
  cases space.filter.shouldProcess payload (pipeline.clock space.readings) .archive with
  | false => exact ⟨idle, nofun⟩
  | true =>
      cases Snapshot.classify announcement payload with
      | error failure => exact ⟨idle, fun _ => ⟨rfl, rfl, Nat.le_succ _⟩⟩
      | ok message =>
          have still := isolation.idle_reconcile idle message
          simp only [reconcile]
          rcases answer : JarLedger.reconcile pipeline.store message space.store with ⟨_ | _, after⟩
          · obtain rfl := isolation.unmoved_of_failed idle answer
            exact ⟨idle, fun _ => ⟨rfl, rfl, Nat.le_succ _⟩⟩
          · rw [answer] at still
            exact ⟨still, nofun⟩

/-- The documents whose results are no failures. -/
def survivors (payloads : List String) (results : List PayloadResult) : List String :=
  ((payloads.zip results).filter fun entry => entry.2.isOk).map Prod.fst

/-- While the clock stands, the survivors fare without the others as they do among them. -/
theorem processEach_survivors (isolation : pipeline.store.Isolation) (payloads : List String)
    (idle : isolation.Idle space.store) (matching : space.Matches other)
    (stands : pipeline.Stands other.readings
      (pipeline.processEach announcement payloads space).2.readings) :
    let each := pipeline.processEach announcement payloads space
    let alone := pipeline.processEach announcement (survivors payloads each.1) other
    alone.1 = each.1.filter Except.isOk ∧ each.2.Matches alone.2 := by
  induction payloads generalizing space other with
  | nil => exact ⟨rfl, matching⟩
  | cons payload rest ih =>
      obtain ⟨stillIdle, undone⟩ := processPayload_isolated isolation idle announcement payload
      have onward := readings_le_processEach pipeline announcement rest
        (pipeline.processPayload announcement payload .archive space).2
      simp only [processEach] at stands ⊢
      cases good : (pipeline.processPayload announcement payload .archive space).1.isOk with
      | false =>
          have others := ih stillIdle ((undone good).trans matching) stands
          simp only [survivors, List.zip_cons_cons, List.filter_cons, good] at others ⊢
          exact others
      | true =>
          obtain ⟨same, matching⟩ :=
            processPayload_matches matching (stands.mono (Nat.le_refl _) onward)
          have others := ih stillIdle matching
            (stands.mono (Nat.le_of_lt readings_lt_processPayload) (Nat.le_refl _))
          simp only [survivors, List.zip_cons_cons, List.filter_cons, good, if_true,
            List.map_cons, processEach] at others ⊢
          exact ⟨congrArg₂ List.cons same others.1, others.2⟩

/-- An archive that can be read to its end is worked on as its documents would be one after the
other, and its report has every place once.  If the store isolates its transactions and the clock
stands, then without the documents that failed the store, the filter and the other outcomes end the
same, the places numbered anew. -/
theorem processArchiveAnnouncement_isolated {envelope url : String} {source : ByteSource}
    {payloads : List String} (space : Workspace σ)
    (requested : pipeline.requestedArchive envelope = .ok (some (announcement, url)))
    (arrives : pipeline.objects.stream url = .ok source)
    (readable : ((Extraction.Archive.ofSource source).documents
      pipeline.archiveDataDirectory).1 = payloads.map .ok) :
    let each := pipeline.processEach announcement payloads space
    ∃ report,
      pipeline.processArchiveAnnouncement envelope space =
        (.ok (.processed report), each.2) ∧
      report.truncated = none ∧
      report.payloadCount = payloads.length ∧
      (∀ place outcome, (place, outcome) ∈ report.outcomes ↔
        each.1[place]? = some (.ok outcome)) ∧
      (∀ place failure, (place, failure) ∈ report.failures ↔
        each.1[place]? = some (.error failure)) ∧
      (report.outcomes.map Prod.fst ++ report.failures.map Prod.fst).Perm
        (List.range report.payloadCount) ∧
      (report.outcomes.map Prod.fst).Pairwise (· < ·) ∧
      (report.failures.map Prod.fst).Pairwise (· < ·) ∧
      ∀ (isolation : pipeline.store.Isolation) (objects : ObjectStore) (remaining : ByteSource),
        isolation.Idle space.store →
        pipeline.Stands space.readings each.2.readings →
        objects.stream url = .ok remaining →
        ((Extraction.Archive.ofSource remaining).documents
          pipeline.archiveDataDirectory).1 = (survivors payloads each.1).map .ok →
        ∃ others after,
          { pipeline with objects }.processArchiveAnnouncement envelope space =
            (.ok (.processed others), after) ∧
          after.store = each.2.store ∧ after.filter = each.2.filter ∧
          others.truncated = none ∧ others.failures = [] ∧
          others.outcomes = ((report.outcomes.map Prod.snd).zipIdx).map Prod.swap := by
  intro each
  have processed {objects : ObjectStore} {source : ByteSource} {payloads : List String}
      (arrives : objects.stream url = .ok source)
      (readable : ((Extraction.Archive.ofSource source).documents
        pipeline.archiveDataDirectory).1 = payloads.map .ok) :
      { pipeline with objects }.processArchiveAnnouncement envelope space =
        (.ok (.processed (.ofResults (pipeline.processEach announcement payloads space).1)),
          (pipeline.processEach announcement payloads space).2) := by
    have requested : { pipeline with objects }.requestedArchive envelope =
        .ok (some (announcement, url)) := requested
    simp only [processArchiveAnnouncement, requested, arrives, readable, processItems_ok,
      processEach_objects]
  have counted := ArchiveReport.payloadCount_ofResults each.1
  refine ⟨.ofResults each.1, processed arrives readable, rfl,
    counted.trans (length_processEach payloads space), fun _ _ => ArchiveReport.mem_outcomes,
    fun _ _ => ArchiveReport.mem_failures, ?_, ArchiveReport.ascending_outcomes each.1,
    ArchiveReport.ascending_failures each.1, ?_⟩
  · rw [counted]
    exact ArchiveReport.perm_places each.1
  · intro isolation objects remaining idle stands supplied left
    obtain ⟨results, matching⟩ :=
      processEach_survivors isolation payloads idle (.refl space) stands
    refine ⟨_, _, processed supplied left, matching.store, matching.filter, rfl, ?_, ?_⟩
    · rw [results]
      exact ArchiveReport.failuresFrom_filter 0 each.1
    · rw [results]
      exact ArchiveReport.outcomesFrom_filter 0 0 each.1

/-- An update of a machine that nobody knows. -/
def strayUpdate : Tar.File where
  path := Utf8.encode "i/data/var/tmp/insights-runtimes/uploads/s"
  body := Utf8.encode "\x7b\"updated-jars\":\x7b\"idHash\":\"u\",\"jars\":[\"b\"]\x7d\x7d"
  short := by decide +kernel
  unbroken := by decide +kernel
  small := by decide +kernel

/-- The update in front of the machine fails; without it the machine fares the same. -/
theorem processArchiveAnnouncement_strayUpdate :
    let archive (files : List Tar.File) : ObjectStore :=
      ⟨fun _ => .error .crashed, fun _ => .ok (packed files [])⟩
    let pipeline : Pipeline MemoryStore :=
      .ofSettings {} (archive [strayUpdate, machineFile]) (fun _ => 0) MemoryStore.store
    let space : Workspace MemoryStore := { store := {}, filter := .recent ⟨300, 300, []⟩ }
    ∃ report after others last,
      pipeline.processArchiveAnnouncement runtimesEnvelope space =
        (.ok (.processed report), after) ∧
      (0, .integrity (.unknownLinkingHash "u")) ∈ report.failures ∧
      (1, .applied (.inserted 1)) ∈ report.outcomes ∧
      { pipeline with objects := archive [machineFile] }.processArchiveAnnouncement
        runtimesEnvelope space = (.ok (.processed others), last) ∧
      last.store = after.store ∧ last.filter = after.filter ∧
      others.outcomes = ((report.outcomes.map Prod.snd).zipIdx).map Prod.swap := by
  intro archive pipeline space
  let announcement : Announcement := ⟨none, "o", "", some "u", default, none, true⟩
  let texts (files : List Tar.File) : List String :=
    Extraction.documentsOf pipeline.archiveDataDirectory
      (files.map fun file => (file.path, file.body))
  let each := pipeline.processEach announcement (texts [strayUpdate, machineFile]) space
  have requested : pipeline.requestedArchive runtimesEnvelope =
      .ok (some (announcement, "u")) := by decide +kernel
  have results : each.1 = [.error (.integrity (.unknownLinkingHash "u")),
      .ok (.applied (.inserted 1))] := by decide +kernel
  have left : survivors (texts [strayUpdate, machineFile]) each.1 = texts [machineFile] := by
    rw [results]
    decide +kernel
  obtain ⟨report, processed, -, -, outcomes, failures, -, -, -, isolated⟩ :=
    processArchiveAnnouncement_isolated space requested rfl (documents_packed _ (by decide +kernel))
  obtain ⟨others, last, alone, store, filter, -, -, same⟩ :=
    isolated MemoryStore.isolation (archive [machineFile]) _ rfl ⟨0, fun _ _ _ => rfl⟩ rfl
      ((documents_packed _ (by decide +kernel)).trans (congrArg (List.map Except.ok) left.symm))
  have failed : each.1[0]? = some (.error (.integrity (.unknownLinkingHash "u"))) := by
    rw [results]
    rfl
  have applied : each.1[1]? = some (.ok (.applied (.inserted 1))) := by
    rw [results]
    rfl
  exact ⟨report, _, others, last, processed, (failures 0 _).mpr failed,
    (outcomes 1 _).mpr applied, alone, store, filter, same⟩

end Pipeline
end JarLedger
