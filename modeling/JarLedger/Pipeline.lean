import JarLedger.Envelope
import JarLedger.Extraction
import JarLedger.ObjectStore.Basic
import JarLedger.RecentPayloads
import JarLedger.Reconciliation
import JarLedger.Snapshot.Classification

/-!
# Work on one announcement

From an envelope to the store: read the envelope, fetch the object it names, take the documents out
of it, and apply each document in a transaction of its own.  A document is remembered as applied
only after its transaction is committed.  A document of an archive that fails does not touch the
others, and damage to an archive costs only what comes after it.
-/

namespace JarLedger

/-- Which documents are worked on. -/
inductive DuplicateFilter where
  /-- All of them. -/
  | acceptAll
  /-- Those that were not applied recently. -/
  | recent (payloads : RecentPayloads)

namespace DuplicateFilter

/-- Whether a document is to be worked on. -/
def shouldProcess (filter : DuplicateFilter) (payload : String) (now : Int) (source : Source) :
    Bool :=
  match filter with
  | .acceptAll => true
  | .recent payloads => payloads.shouldProcess payload now source

/-- Remember a document that was applied. -/
def markApplied (filter : DuplicateFilter) (payload : String) (now : Int) (source : Source) :
    DuplicateFilter :=
  match filter with
  | .acceptAll => .acceptAll
  | .recent payloads => .recent (payloads.markApplied payload now source)

/-- How many documents are remembered, if any can be. -/
def remembered? : DuplicateFilter → Option Nat
  | .acceptAll => none
  | .recent payloads => some payloads.size

end DuplicateFilter

/-- What became of a document that did not fail. -/
inductive PayloadOutcome where
  /-- It was applied. -/
  | applied (reconciled : Reconciled)
  /-- The same text was applied recently. -/
  | duplicate
  deriving DecidableEq, Repr

/-- What became of the announcement of one document. -/
inductive AnnouncementOutcome where
  /-- The document was worked on. -/
  | processed (outcome : PayloadOutcome)
  /-- The announcement is not meant for this flow. -/
  | ignored
  deriving DecidableEq, Repr

/-- What became of the documents of an archive, by their place in it. -/
structure ArchiveReport where
  outcomes : List (Nat × PayloadOutcome) := []
  failures : List (Nat × IngestError) := []
  /-- The failure that ended the archive early, if one did. -/
  truncated : Option ExtractionError := none
  deriving DecidableEq, Repr

/-- How many documents an archive held. -/
def ArchiveReport.payloadCount (report : ArchiveReport) : Nat :=
  report.outcomes.length + report.failures.length

/-- What became of the announcement of an archive. -/
inductive ArchiveOutcome where
  /-- The documents were worked on. -/
  | processed (report : ArchiveReport)
  /-- The announcement is not meant for this flow. -/
  | ignored
  deriving DecidableEq, Repr

/-- What work on announcements goes by. -/
structure Pipeline (σ : Type) where
  acceptedContentType : String
  archiveDataDirectory : String
  objects : ObjectStore
  /-- The time in milliseconds, by how often it was read before. -/
  clock : Nat → Int
  store : Store σ

/-- What work on announcements changes. -/
structure Workspace (σ : Type) where
  store : σ
  filter : DuplicateFilter
  /-- How often the clock was read. -/
  readings : Nat := 0

namespace Pipeline

variable {σ : Type}

/-- The pipeline of some settings. -/
def ofSettings (settings : Settings) (objects : ObjectStore) (clock : Nat → Int)
    (store : Store σ) : Pipeline σ where
  acceptedContentType := settings.acceptedContentType
  archiveDataDirectory := settings.archiveDataDirectory
  objects
  clock
  store

/-- Ask the filter whether a document is to be worked on. -/
def gate (pipeline : Pipeline σ) (payload : String) (source : Source) (space : Workspace σ) :
    Bool × Workspace σ :=
  (space.filter.shouldProcess payload (pipeline.clock space.readings) source,
    { space with readings := space.readings + 1 })

/-- Apply a message in one transaction. -/
def reconcile (pipeline : Pipeline σ) (message : Message) (space : Workspace σ) :
    Except IngestError Reconciled × Workspace σ :=
  let (result, store) := JarLedger.reconcile pipeline.store message space.store
  (result, { space with store })

/-- Remember a document as applied. -/
def mark (pipeline : Pipeline σ) (payload : String) (source : Source) (space : Workspace σ) :
    Workspace σ :=
  { space with
    filter := space.filter.markApplied payload (pipeline.clock space.readings) source
    readings := space.readings + 1 }

/-- Work on one document. -/
def processPayload (pipeline : Pipeline σ) (announcement : Announcement) (payload : String)
    (source : Source) (space : Workspace σ) : Except IngestError PayloadOutcome × Workspace σ :=
  match pipeline.gate payload source space with
  | (false, space) => (.ok .duplicate, space)
  | (true, space) =>
      match Snapshot.classify announcement payload with
      | .error failure => (.error failure, space)
      | .ok message =>
          match pipeline.reconcile message space with
          | (.error failure, space) => (.error failure, space)
          | (.ok reconciled, space) =>
              (.ok (.applied reconciled), pipeline.mark payload source space)

/-- What an announcement of one document asks for: the address of the object, or nothing if it is
not meant for this flow. -/
def wantedBlob (pipeline : Pipeline σ) (announcement : Announcement) :
    Except ParseError (Option String) :=
  if announcement.contentType ≠ pipeline.acceptedContentType then .ok none
  else
    match announcement.url with
    | some url => .ok (some url)
    | none => .error (.missingField "url")

/-- The object that an envelope asks for, with the announcement in it. -/
def requestedBlob (pipeline : Pipeline σ) (envelope : String) :
    Except ParseError (Option (Announcement × String)) := do
  let announcement ← Envelope.read envelope
  let url ← pipeline.wantedBlob announcement
  return url.map fun url => (announcement, url)

/-- Fetch and unpack one document. -/
def fetchBlob (pipeline : Pipeline σ) (url : String) : Except (Halt IngestError) String := do
  let compressed ← (pipeline.objects.bytes url).mapError (Halt.map .fetch)
  (Extraction.document compressed).mapError fun cause => .failed (.extraction cause)

/-- Work on the announcement of one document. -/
def processAnnouncement (pipeline : Pipeline σ) (envelope : String) (space : Workspace σ) :
    Except (Halt IngestError) AnnouncementOutcome × Workspace σ :=
  match pipeline.requestedBlob envelope with
  | .error cause => (.error (.failed (.parse cause)), space)
  | .ok none => (.ok .ignored, space)
  | .ok (some (announcement, url)) =>
      match pipeline.fetchBlob url with
      | .error halt => (.error halt, space)
      | .ok payload =>
          let (result, space) := pipeline.processPayload announcement payload .singleBlob space
          ((result.map .processed).mapError .failed, space)

/-- The object that an envelope of an archive asks for, with the announcement in it. -/
def requestedArchive (pipeline : Pipeline σ) (envelope : String) :
    Except ParseError (Option (Announcement × String)) := do
  let announcement ← Envelope.read envelope
  let wanted := announcement.contentType = pipeline.acceptedContentType ∨ announcement.isRuntimes
  return if wanted then announcement.url.map fun url => (announcement, url) else none

/-- Work on what a walk through an archive hands out at a place. -/
def processItem (pipeline : Pipeline σ) (announcement : Announcement)
    (progress : ArchiveReport × Workspace σ) (item : Extraction.Item × Nat) :
    ArchiveReport × Workspace σ :=
  let (report, space) := progress
  match item.1 with
  | .error cause => ({ report with truncated := some cause }, space)
  | .ok payload =>
      match pipeline.processPayload announcement payload .archive space with
      | (.ok outcome, space) =>
          ({ report with outcomes := report.outcomes ++ [(item.2, outcome)] }, space)
      | (.error failure, space) =>
          ({ report with failures := report.failures ++ [(item.2, failure)] }, space)

/-- Work on all that a walk through an archive hands out. -/
def processItems (pipeline : Pipeline σ) (announcement : Announcement)
    (items : List Extraction.Item) (space : Workspace σ) : ArchiveReport × Workspace σ :=
  items.zipIdx.foldl (pipeline.processItem announcement) ({}, space)

/-- Work on the announcement of an archive. -/
def processArchiveAnnouncement (pipeline : Pipeline σ) (envelope : String)
    (space : Workspace σ) : Except (Halt IngestError) ArchiveOutcome × Workspace σ :=
  match pipeline.requestedArchive envelope with
  | .error cause => (.error (.failed (.parse cause)), space)
  | .ok none => (.ok .ignored, space)
  | .ok (some (announcement, url)) =>
      match pipeline.objects.stream url with
      | .error halt => (.error (halt.map .fetch), space)
      | .ok source =>
          let archive := Extraction.Archive.ofSource source
          let items := (archive.documents pipeline.archiveDataDirectory).1
          let (report, space) := pipeline.processItems announcement items space
          (.ok (.processed report), space)

end Pipeline
end JarLedger
