import JarLedger.WorkerPool.Tally
import Mathlib.Data.List.Count

/-!
# Tallies as counts of single things

A tally counts things of several sorts, one at a time.  Recording what became of an announcement is
counting the things in a list (`Tally.recordHandled_eq`), and how often a sort was counted does not
depend on the order (`Tally.get_bumpAll`).  So a tally is known from what became of each
announcement, in whatever order the things were counted.
-/

namespace JarLedger

/-- A sort of things that a tally counts. -/
inductive Count where
  | received
  | ignored
  | failedAnnouncement
  | applied
  | duplicate
  | failedPayload
  | truncatedArchive
  | crashedWorker
  | error (kind : ErrorKind)
  deriving DecidableEq, Repr

/-- Whether a failure is counted under its kind. -/
def Count.isError : Count → Bool
  | .error _ => true
  | _ => false

@[simp]
theorem Count.isError_error (kind : ErrorKind) : (Count.error kind).isError = true := rfl

/-- Whether a document is counted that did not fail. -/
def Count.isDone : Count → Bool
  | .applied => true
  | .duplicate => true
  | _ => false

/-- What a document that did not fail is counted as. -/
def PayloadOutcome.count : PayloadOutcome → Count
  | .applied _ => .applied
  | .duplicate => .duplicate

@[simp]
theorem PayloadOutcome.count_applied (reconciled : Reconciled) :
    (PayloadOutcome.applied reconciled).count = .applied := rfl

@[simp]
theorem PayloadOutcome.count_duplicate : PayloadOutcome.duplicate.count = .duplicate := rfl

/-- What there is to count of the documents of an archive. -/
def ArchiveReport.counts (report : ArchiveReport) : List Count :=
  (report.outcomes.map fun outcome => outcome.2.count) ++
    (report.failures.flatMap fun failure => [.failedPayload, .error failure.2.kind]) ++
    if report.truncated.isSome then [.truncatedArchive] else []

namespace Handled

/-- What a worker counts when it has dealt with an announcement. -/
def counts : Handled → List Count
  | .blob (.ok (.processed outcome)) => [outcome.count]
  | .blob (.ok .ignored) => [.ignored]
  | .blob (.error (.failed failure)) => [.failedAnnouncement, .error failure.kind]
  | .blob (.error .crashed) => []
  | .archive (.ok (.processed report)) => report.counts
  | .archive (.ok .ignored) => [.ignored]
  | .archive (.error (.failed failure)) => [.failedAnnouncement, .error failure.kind]
  | .archive (.error .crashed) => []

/-- What is counted when the end of a worker is noticed. -/
def endCounts (crashed : Bool) : List Count :=
  if crashed then [.crashedWorker, .failedAnnouncement] else []

/-- All that is counted of an announcement. -/
def allCounts (handled : Handled) : List Count :=
  .received :: (handled.counts ++ endCounts handled.isCrash)

end Handled

namespace Tally

/-- How many things of a sort were counted. -/
def get (tally : Tally) : Count → Nat
  | .received => tally.received
  | .ignored => tally.ignored
  | .failedAnnouncement => tally.failedAnnouncements
  | .applied => tally.applied
  | .duplicate => tally.duplicates
  | .failedPayload => tally.failedPayloads
  | .truncatedArchive => tally.truncatedArchives
  | .crashedWorker => tally.crashedWorkers
  | .error kind => tally.errors kind

/-- Count one thing. -/
def bump (tally : Tally) : Count → Tally
  | .received => { tally with received := tally.received + 1 }
  | .ignored => { tally with ignored := tally.ignored + 1 }
  | .failedAnnouncement => { tally with failedAnnouncements := tally.failedAnnouncements + 1 }
  | .applied => { tally with applied := tally.applied + 1 }
  | .duplicate => { tally with duplicates := tally.duplicates + 1 }
  | .failedPayload => { tally with failedPayloads := tally.failedPayloads + 1 }
  | .truncatedArchive => { tally with truncatedArchives := tally.truncatedArchives + 1 }
  | .crashedWorker => { tally with crashedWorkers := tally.crashedWorkers + 1 }
  | .error kind =>
      { tally with
        errors := fun other => if other = kind then tally.errors other + 1 else tally.errors other }

/-- Count some things one after the other. -/
def bumpAll (tally : Tally) (counts : List Count) : Tally := counts.foldl bump tally

/-- A tally is known from its numbers. -/
theorem ext_get {left right : Tally} (same : ∀ count, left.get count = right.get count) :
    left = right := by
  have errors : left.errors = right.errors := funext fun kind => same (.error kind)
  have received := same .received
  have ignored := same .ignored
  have failedAnnouncements := same .failedAnnouncement
  have applied := same .applied
  have duplicates := same .duplicate
  have failedPayloads := same .failedPayload
  have truncatedArchives := same .truncatedArchive
  have crashedWorkers := same .crashedWorker
  cases left
  cases right
  simp_all only [get]

@[simp]
theorem get_fresh (count : Count) : ({} : Tally).get count = 0 := by
  cases count <;> rfl

theorem get_bump (tally : Tally) (counted sought : Count) :
    (tally.bump counted).get sought = tally.get sought + if counted = sought then 1 else 0 := by
  cases counted with
  | error kind =>
      cases sought with
      | error other =>
          by_cases same : other = kind
          · simp [bump, get, same]
          · simp [bump, get, same, Ne.symm same]
      | _ => simp [bump, get]
  | _ => cases sought <;> simp [bump, get]

theorem get_bumpAll (tally : Tally) (counts : List Count) (sought : Count) :
    (tally.bumpAll counts).get sought = tally.get sought + counts.count sought := by
  induction counts generalizing tally with
  | nil => rfl
  | cons counted rest ih =>
      change ((tally.bump counted).bumpAll rest).get sought = _
      rw [ih, get_bump, List.count_cons]
      simp only [beq_iff_eq]
      omega

/-! ## Recording is counting -/

theorem recordPayload_eq (tally : Tally) (outcome : PayloadOutcome) :
    tally.recordPayload outcome = tally.bump outcome.count := by
  cases outcome <;> rfl

theorem recordReport_eq (tally : Tally) (report : ArchiveReport) :
    tally.recordReport report = tally.bumpAll report.counts := by
  have outcomes (tally : Tally) :
      report.outcomes.foldl (fun (tally : Tally) outcome => tally.recordPayload outcome.2) tally =
        tally.bumpAll (report.outcomes.map fun outcome => outcome.2.count) := by
    rw [bumpAll, List.foldl_map]
    simp only [recordPayload_eq]
  have failures (tally : Tally) :
      report.failures.foldl (fun (tally : Tally) failure => tally.recordFailedPayload failure.2)
          tally =
        tally.bumpAll (report.failures.flatMap fun failure =>
          [.failedPayload, .error failure.2.kind]) := by
    rw [bumpAll, List.foldl_flatMap]
    rfl
  rw [recordReport, outcomes, failures, ArchiveReport.counts, bumpAll, bumpAll, bumpAll,
    List.foldl_append, List.foldl_append]
  split <;> rfl

theorem recordHandled_eq (tally : Tally) (handled : Handled) :
    tally.recordHandled handled = tally.bumpAll handled.counts := by
  cases handled with
  | blob result =>
      rcases result with (failure | _) | (outcome | _)
      · rfl
      · rfl
      · exact recordPayload_eq tally outcome
      · rfl
  | archive result =>
      rcases result with (failure | _) | (report | _)
      · rfl
      · rfl
      · exact recordReport_eq tally report
      · rfl

theorem get_recordHandled (tally : Tally) (handled : Handled) (count : Count) :
    (tally.receive.recordHandled handled).get count =
      tally.get count + (.received :: handled.counts).count count := by
  rw [recordHandled_eq]
  exact tally.get_bumpAll (.received :: handled.counts) count

theorem recordEnd_eq (tally : Tally) (crashed : Bool) :
    tally.recordEnd crashed = tally.bumpAll (Handled.endCounts crashed) := by
  cases crashed <;> rfl

/-- Record all that there is to record of an announcement. -/
def record (tally : Tally) (handled : Handled) : Tally :=
  (tally.receive.recordHandled handled).recordEnd handled.isCrash

theorem record_eq (tally : Tally) (handled : Handled) :
    tally.record handled = tally.bumpAll handled.allCounts := by
  rw [record, recordEnd_eq, recordHandled_eq, Handled.allCounts, bumpAll, bumpAll, bumpAll,
    List.foldl_cons, List.foldl_append]
  rfl

theorem get_record (tally : Tally) (handled : Handled) (count : Count) :
    (tally.record handled).get count = tally.get count + handled.allCounts.count count := by
  rw [record_eq, get_bumpAll]

/-- The tally of announcements that were worked on one after the other, the last one first. -/
def ofHandled (handled : List Handled) : Tally :=
  handled.foldr (fun handled tally => tally.record handled) {}

theorem get_ofHandled (handled : List Handled) (count : Count) :
    (ofHandled handled).get count = (handled.flatMap Handled.allCounts).count count := by
  induction handled with
  | nil => exact get_fresh count
  | cons last rest ih =>
      rw [ofHandled, List.foldr_cons, ← ofHandled, get_record, ih, List.flatMap_cons,
        List.count_append, Nat.add_comm]

end Tally
end JarLedger
