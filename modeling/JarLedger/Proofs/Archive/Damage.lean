import JarLedger.Proofs.Archive.Payloads
import JarLedger.Proofs.Packing.Archive
import JarLedger.Store.Memory

/-!
# Damage costs only what comes after it

An archive that breaks off after some entries is worked on as the intact archive of those entries
is.  Its report says so once, and nothing else tells the two apart
(`Pipeline.processArchiveAnnouncement_damaged`).
-/

namespace JarLedger
namespace Pipeline

variable {σ : Type} {pipeline : Pipeline σ} {announcement : Announcement}

/-- A failure after documents is noted and changes nothing else. -/
theorem processItems_failed (payloads : List String) (cause : ExtractionError)
    (space : Workspace σ) :
    pipeline.processItems announcement (payloads.map .ok ++ [.error cause]) space =
      ({ ArchiveReport.ofResults (pipeline.processEach announcement payloads space).1 with
          truncated := some cause },
        (pipeline.processEach announcement payloads space).2) := by
  have before : pipeline.processItems announcement (payloads.map .ok) space = _ :=
    processItems_ok payloads space
  rw [processItems] at before ⊢
  rw [List.zipIdx_append, List.foldl_append, before]
  rfl

/-- A damaged archive leaves the store and the filter as the intact archive of the entries before
the damage does, with the same outcomes and failures at the same places.  A walk through it hands
out the same documents and then one failure, which the report keeps.  An entry counts with the bytes
that are there: of an archive that ends too early in packaging that is whole, the last may be
short. -/
theorem processArchiveAnnouncement_damaged {envelope url : String} {damaged intact : ByteSource}
    (objects : ObjectStore) (space : Workspace σ)
    (requested : pipeline.requestedArchive envelope = .ok (some (announcement, url)))
    (arrives : pipeline.objects.stream url = .ok damaged)
    (supplied : objects.stream url = .ok intact)
    (broken : (Extraction.Archive.ofSource damaged).entries.isWhole = false)
    (whole : (Extraction.Archive.ofSource intact).entries.isWhole = true)
    (same : (Extraction.Archive.ofSource damaged).entries.full =
      (Extraction.Archive.ofSource intact).entries.full) :
    ∃ (payloads : List String) (report : ArchiveReport) (after : Workspace σ),
      ((Extraction.Archive.ofSource intact).documents pipeline.archiveDataDirectory).1 =
        payloads.map .ok ∧
      ((Extraction.Archive.ofSource damaged).documents pipeline.archiveDataDirectory).1 =
        payloads.map .ok ++ [.error .archive] ∧
      { pipeline with objects }.processArchiveAnnouncement envelope space =
        (.ok (.processed report), after) ∧
      report.truncated = none ∧
      pipeline.processArchiveAnnouncement envelope space =
        (.ok (.processed { report with truncated := some .archive }), after) := by
  let payloads := Extraction.documentsOf pipeline.archiveDataDirectory
    (Extraction.Archive.ofSource intact).entries.full
  have readable : ((Extraction.Archive.ofSource intact).documents
      pipeline.archiveDataDirectory).1 = payloads.map .ok := by
    rw [Extraction.documents_ofSource, whole]
    exact List.append_nil _
  have cut : ((Extraction.Archive.ofSource damaged).documents
      pipeline.archiveDataDirectory).1 = payloads.map .ok ++ [.error .archive] := by
    rw [Extraction.documents_ofSource, broken, same]
    rfl
  have requested' : { pipeline with objects }.requestedArchive envelope =
      .ok (some (announcement, url)) := requested
  refine ⟨payloads, .ofResults (pipeline.processEach announcement payloads space).1,
    (pipeline.processEach announcement payloads space).2, readable, cut, ?_, rfl, ?_⟩
  · simp only [processArchiveAnnouncement, requested', supplied, readable, processItems_ok,
      processEach_objects]
  · simp only [processArchiveAnnouncement, requested, arrives, cut, processItems_failed]

/-- A machine in an archive that breaks off in the header after it. -/
theorem processArchiveAnnouncement_brokenHeader :
    let serving (source : ByteSource) : ObjectStore :=
      ⟨fun _ => .error .crashed, fun _ => .ok source⟩
    let pipeline : Pipeline MemoryStore :=
      .ofSettings {} (serving (packed [machineFile] [0])) (fun _ => 0) MemoryStore.store
    let space : Workspace MemoryStore := { store := {}, filter := .recent ⟨300, 300, []⟩ }
    ∃ report after,
      { pipeline with objects := serving (packed [machineFile] []) }.processArchiveAnnouncement
        runtimesEnvelope space = (.ok (.processed report), after) ∧
      report.truncated = none ∧
      pipeline.processArchiveAnnouncement runtimesEnvelope space =
        (.ok (.processed { report with truncated := some .archive }), after) := by
  intro serving pipeline space
  have requested : pipeline.requestedArchive runtimesEnvelope =
      .ok (some (⟨none, "o", "", some "u", default, none, true⟩, "u")) := by decide +kernel
  have short : (Tar.pack [machineFile]).length < 0xFFFF := by decide +kernel
  obtain ⟨cutFull, cut⟩ := entries_packed_cut 0 short
  obtain ⟨full, whole⟩ := entries_packed_whole (Nat.le_of_lt short)
  obtain ⟨_, report, after, -, -, processed, untruncated, damaged⟩ :=
    processArchiveAnnouncement_damaged (serving (packed [machineFile] [])) space requested rfl rfl
      cut whole (cutFull.trans full.symm)
  exact ⟨report, after, processed, untruncated, damaged⟩

end Pipeline
end JarLedger
