import JarLedger.Log.Filter
import JarLedger.WorkerPool.Tally

/-!
# Log events

What is noted about a run.  An announcement that fails is one error, and so is every document of an
archive that fails and every worker that dies; damage to an archive is a warning.
-/

namespace JarLedger

/-- The part of the program that an event comes from. -/
inductive LogSubject where
  | command
  | log
  | database
  | workers
  | pipeline
  | objects
  | classification
  | duplicates
  | reconciliation
  deriving DecidableEq, Repr

/-- Name of a part of the program, which filters speak about. -/
def LogSubject.name : LogSubject → String
  | .command => "inventory_ingest"
  | .log => "inventory_ingest::logging"
  | .database => "inventory_ingest::store::postgres"
  | .workers => "inventory_ingest::worker"
  | .pipeline => "inventory_ingest::pipeline"
  | .objects => "inventory_ingest::fetch"
  | .classification => "inventory_ingest::classify"
  | .duplicates => "inventory_ingest::dedupe"
  | .reconciliation => "inventory_ingest::reconcile"

/-- Something to note. -/
structure LogEvent where
  severity : Severity
  subject : LogSubject
  message : String
  deriving DecidableEq, Repr

/-- Whether a filter lets an event be noted. -/
def LogFilter.admitsEvent (filter : LogFilter) (event : LogEvent) : Bool :=
  filter.admits event.subject.name event.severity

namespace LogEvent

/-- What is noted when an object is asked for. -/
def fetching : LogEvent := ⟨.debug, .objects, "fetching object"⟩

/-- What is noted when a document is recognised. -/
def classified : LogEvent := ⟨.debug, .classification, "classified payload"⟩

/-- What is noted about a document that did not fail. -/
def ofPayload : PayloadOutcome → List LogEvent
  | .applied _ => [classified, ⟨.debug, .reconciliation, "transaction committed"⟩]
  | .duplicate =>
      [⟨.debug, .duplicates, "payload already applied"⟩,
        ⟨.info, .pipeline, "skipping duplicate payload"⟩]

/-- What is noted on the way to a failure of an announcement that is wanted. -/
def before : IngestError → List LogEvent
  | .parse _ | .fetch (.unreadableUrl _) | .fetch (.unsupportedScheme _ _) => []
  | .fetch _ | .extraction _ | .classification _ => [fetching]
  | .integrity _ | .persistence _ => [fetching, classified]

/-- An error with its cause. -/
def failure (text : String) (cause : IngestError) : LogEvent :=
  ⟨.error, .workers, text ++ ": " ++ cause.message⟩

/-- The death of a worker. -/
def crash : LogEvent := ⟨.error, .workers, "worker panicked"⟩

/-- What is noted about the announcement of one document that is wanted. -/
def wantedBlob : LogEvent := ⟨.info, .pipeline, "processing announcement"⟩

/-- What is noted about the announcement of an archive that is wanted. -/
def wantedArchive : LogEvent := ⟨.info, .pipeline, "processing archive announcement"⟩

/-- What is noted about a failed announcement; `wanted` is what is noted once its envelope is
read. -/
def ofFailure (wanted : LogEvent) (cause : IngestError) : List LogEvent :=
  let reached := if cause.kind = .parse then [] else wanted :: before cause
  reached ++ [failure "announcement failed" cause]

/-- What is noted about the documents of an archive. -/
def ofReport (report : ArchiveReport) : List LogEvent :=
  [wantedArchive, fetching] ++ report.outcomes.flatMap (fun outcome => ofPayload outcome.2) ++
    report.failures.map (fun entry =>
      ⟨.warning, .pipeline, "archive payload dropped: " ++ entry.2.message⟩) ++
    report.truncated.toList.map (fun _ => ⟨.warning, .pipeline, "archive truncated"⟩) ++
    [⟨.info, .pipeline, "archive processed"⟩] ++
    report.failures.map (fun entry => failure "archive payload failed" entry.2) ++
    report.truncated.toList.map (fun _ =>
      ⟨.warning, .workers, "archive was only partially extracted"⟩)

/-- What is noted about an announcement. -/
def ofHandled : Handled → List LogEvent
  | .blob (.ok (.processed outcome)) => [wantedBlob, fetching] ++ ofPayload outcome
  | .blob (.ok .ignored) => [⟨.debug, .pipeline, "ignoring announcement"⟩]
  | .blob (.error (.failed cause)) => ofFailure wantedBlob cause
  | .blob (.error .crashed) => [wantedBlob, crash]
  | .archive (.ok (.processed report)) => ofReport report
  | .archive (.ok .ignored) => [⟨.debug, .pipeline, "ignoring archive announcement"⟩]
  | .archive (.error (.failed cause)) => ofFailure wantedArchive cause
  | .archive (.error .crashed) => [wantedArchive, crash]

/-- What is noted at the end of the input. -/
def exhausted : LogEvent := ⟨.info, .workers, "input exhausted"⟩

/-- A line of the log. -/
def line (event : LogEvent) : String :=
  event.severity.name ++ " " ++ event.subject.name ++ ": " ++ event.message

end LogEvent
end JarLedger
