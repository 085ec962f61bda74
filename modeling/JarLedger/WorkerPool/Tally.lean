import JarLedger.Pipeline

/-!
# Tallies

What became of the announcements of a run, in numbers.  Announcements and documents are counted
apart, since one archive carries many documents.
-/

namespace JarLedger

/-- Which flow announcements belong to. -/
inductive Channel where
  /-- One document to an announcement. -/
  | announce
  /-- An archive of documents to an announcement. -/
  | archive
  deriving DecidableEq, Repr

/-- How a worker dealt with an announcement. -/
inductive Handled where
  /-- Of one document. -/
  | blob (result : Except (Halt IngestError) AnnouncementOutcome)
  /-- Of an archive. -/
  | archive (result : Except (Halt IngestError) ArchiveOutcome)

/-- Whether the worker died over it. -/
def Handled.isCrash : Handled → Bool
  | .blob (.error .crashed) => true
  | .archive (.error .crashed) => true
  | _ => false

/-- Numbers of what happened. -/
structure Tally where
  received : Nat := 0
  ignored : Nat := 0
  failedAnnouncements : Nat := 0
  applied : Nat := 0
  duplicates : Nat := 0
  failedPayloads : Nat := 0
  truncatedArchives : Nat := 0
  /-- Workers that died; each is a failed announcement too. -/
  crashedWorkers : Nat := 0
  /-- Failures of each kind. -/
  errors : ErrorKind → Nat := fun _ => 0

namespace Tally

/-- Count an announcement that a worker begins with. -/
def receive (tally : Tally) : Tally := { tally with received := tally.received + 1 }

/-- Count a failure under its kind. -/
def recordError (tally : Tally) (failure : IngestError) : Tally :=
  { tally with
    errors := fun kind =>
      if kind = failure.kind then tally.errors kind + 1 else tally.errors kind }

/-- Count a document that did not fail. -/
def recordPayload (tally : Tally) : PayloadOutcome → Tally
  | .applied _ => { tally with applied := tally.applied + 1 }
  | .duplicate => { tally with duplicates := tally.duplicates + 1 }

/-- Count a document that failed. -/
def recordFailedPayload (tally : Tally) (failure : IngestError) : Tally :=
  { tally with failedPayloads := tally.failedPayloads + 1 }.recordError failure

/-- Count an announcement that failed. -/
def recordFailedAnnouncement (tally : Tally) (failure : IngestError) : Tally :=
  { tally with failedAnnouncements := tally.failedAnnouncements + 1 }.recordError failure

/-- Count an announcement that is not meant for the flow. -/
def recordIgnored (tally : Tally) : Tally := { tally with ignored := tally.ignored + 1 }

/-- Count the documents of an archive. -/
def recordReport (tally : Tally) (report : ArchiveReport) : Tally :=
  let counted := report.outcomes.foldl
    (fun (tally : Tally) outcome => tally.recordPayload outcome.2) tally
  let counted := report.failures.foldl
    (fun (tally : Tally) failure => tally.recordFailedPayload failure.2) counted
  if report.truncated.isSome then
    { counted with truncatedArchives := counted.truncatedArchives + 1 }
  else counted

/-- Count what a worker did; one that died did not get to count anything. -/
def recordHandled (tally : Tally) : Handled → Tally
  | .blob (.ok (.processed outcome)) => tally.recordPayload outcome
  | .blob (.ok .ignored) => tally.recordIgnored
  | .blob (.error (.failed failure)) => tally.recordFailedAnnouncement failure
  | .blob (.error .crashed) => tally
  | .archive (.ok (.processed report)) => tally.recordReport report
  | .archive (.ok .ignored) => tally.recordIgnored
  | .archive (.error (.failed failure)) => tally.recordFailedAnnouncement failure
  | .archive (.error .crashed) => tally

/-- Count the end of a worker. -/
def recordEnd (tally : Tally) (crashed : Bool) : Tally :=
  if crashed then
    { tally with
      crashedWorkers := tally.crashedWorkers + 1
      failedAnnouncements := tally.failedAnnouncements + 1 }
  else tally

/-- A tally as a JSON object. -/
def toJson (tally : Tally) : Json :=
  .ofMembers [
    ("received", .int tally.received),
    ("ignored", .int tally.ignored),
    ("failed_announcements", .int tally.failedAnnouncements),
    ("applied", .int tally.applied),
    ("duplicates", .int tally.duplicates),
    ("failed_payloads", .int tally.failedPayloads),
    ("truncated_archives", .int tally.truncatedArchives),
    ("panicked_workers", .int tally.crashedWorkers),
    ("errors", .ofMembers (ErrorKind.all.map fun kind => (kind.name, .int (tally.errors kind))))]

end Tally
end JarLedger
