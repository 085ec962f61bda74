import JarLedger.Proofs.WorkerPool.Counts
import Mathlib.Algebra.BigOperators.Group.List.Basic
import Mathlib.Algebra.GroupWithZero.Nat

/-!
# Balanced tallies

A tally of announcements is balanced if its numbers add up: each announcement and each document is
accounted for once, and each failure once more under its kind, crashes aside, which have none.  A
tally that counted everything there is to count of some announcements of a channel is balanced.
-/

namespace JarLedger

namespace Handled

/-- Whether an announcement came on a channel. -/
def isOn (channel : Channel) : Handled → Bool
  | .blob _ => channel = .announce
  | .archive _ => channel = .archive

/-- What became of the documents, of an archive that was worked on. -/
def report? : Handled → Option ArchiveReport
  | .archive (.ok (.processed report)) => some report
  | _ => none

end Handled

/-- The numbers of a tally add up to what became of the announcements of a channel. -/
structure Balanced (channel : Channel) (handled : List Handled) (tally : Tally) : Prop where
  received : tally.received = handled.length
  crashes : tally.crashedWorkers = handled.countP Handled.isCrash
  crashesFail : tally.crashedWorkers ≤ tally.failedAnnouncements
  /-- Every failure is counted once under its kind, crashes aside. -/
  errors : (ErrorKind.all.map tally.errors).sum =
    tally.failedAnnouncements - tally.crashedWorkers + tally.failedPayloads
  /-- An announcement of one document comes to one of four ends. -/
  announcements : channel = .announce → tally.received =
    tally.applied + tally.duplicates + tally.ignored + tally.failedAnnouncements
  /-- An announcement of an archive comes to one of three. -/
  archives : channel = .archive → tally.received =
    tally.ignored + tally.failedAnnouncements + (handled.filterMap Handled.report?).length
  /-- A document of an archive comes to one of three ends. -/
  documents : channel = .archive → tally.applied + tally.duplicates + tally.failedPayloads =
    ((handled.filterMap Handled.report?).map ArchiveReport.payloadCount).sum
  truncations : channel = .archive → tally.truncatedArchives =
    (handled.filterMap Handled.report?).countP fun report => report.truncated.isSome

/-! ## What there is to count of one announcement -/

/-- Each failure has one kind. -/
theorem sum_count_error (counts : List Count) :
    (ErrorKind.all.map fun kind => counts.count (.error kind)).sum =
      counts.countP Count.isError := by
  induction counts with
  | nil => rfl
  | cons counted rest ih =>
      simp only [ErrorKind.all, List.map_cons, List.map_nil, List.sum_cons, List.sum_nil,
        List.count_cons, List.countP_cons] at ih ⊢
      cases counted with
      | error kind => cases kind <;> simp <;> omega
      | _ => simpa [Count.isError] using ih

/-- A document that did not fail was applied or is a duplicate. -/
theorem count_applied_add_count_duplicate (counts : List Count) :
    counts.count .applied + counts.count .duplicate = counts.countP Count.isDone := by
  induction counts with
  | nil => rfl
  | cons counted rest ih =>
      rw [List.count_cons, List.count_cons, List.countP_cons, ← ih]
      cases counted with
      | applied => exact Nat.add_right_comm _ _ _
      | _ => simp [Count.isDone, Nat.add_assoc]

/-- How often things of some sorts are counted of an archive, if they are counted so often of each
document. -/
theorem ArchiveReport.countP_counts (report : ArchiveReport) (done failed : Nat)
    {wanted : Count → Bool}
    (often : ∀ outcome : PayloadOutcome, [outcome.count].countP wanted = done)
    (oftenFailed : ∀ kind, [.failedPayload, .error kind].countP wanted = failed) :
    report.counts.countP wanted =
      done * report.outcomes.length + failed * report.failures.length +
        if report.truncated.isSome then [.truncatedArchive].countP wanted else 0 := by
  have outcomes : (report.outcomes.map fun outcome => outcome.2.count).countP wanted =
      done * report.outcomes.length := by
    induction report.outcomes with
    | nil => rfl
    | cons outcome rest ih =>
        rw [List.map_cons, ← List.singleton_append, List.countP_append, often, ih,
          List.length_cons, Nat.mul_add_one, Nat.add_comm]
  have failures :
      (report.failures.flatMap fun failure => [.failedPayload, .error failure.2.kind]).countP
        wanted = failed * report.failures.length := by
    induction report.failures with
    | nil => rfl
    | cons failure rest ih =>
        rw [List.flatMap_cons, List.countP_append, oftenFailed, ih, List.length_cons,
          Nat.mul_add_one, Nat.add_comm]
  rw [counts, List.countP_append, List.countP_append, outcomes, failures]
  split <;> rfl

namespace ArchiveReport

variable (report : ArchiveReport)

theorem countP_isDone : report.counts.countP Count.isDone = report.outcomes.length := by
  rw [report.countP_counts 1 0 (by rintro (_ | _) <;> rfl) fun _ => rfl]
  simp [Count.isDone]

theorem countP_isError : report.counts.countP Count.isError = report.failures.length := by
  rw [report.countP_counts 0 1 (by rintro (_ | _) <;> rfl) fun _ => rfl]
  simp [Count.isError]

theorem count_failedPayload : report.counts.count .failedPayload = report.failures.length := by
  rw [List.count,
    report.countP_counts 0 1 (by rintro (_ | _) <;> rfl) fun _ => rfl]
  simp

theorem count_truncatedArchive :
    report.counts.count .truncatedArchive = if report.truncated.isSome then 1 else 0 := by
  rw [List.count,
    report.countP_counts 0 0 (by rintro (_ | _) <;> rfl) fun _ => rfl]
  simp

/-- What is counted of announcements is not counted of documents. -/
theorem count_of_foreign {count : Count}
    (foreign : count ∈ [.received, .ignored, .failedAnnouncement, .crashedWorker]) :
    report.counts.count count = 0 := by
  simp only [List.mem_cons, List.not_mem_nil, or_false] at foreign
  rcases foreign with rfl | rfl | rfl | rfl <;>
    rw [List.count, report.countP_counts 0 0 (by rintro (_ | _) <;> rfl) fun _ => rfl] <;>
    simp

end ArchiveReport

/-- What there is to count of one announcement of a channel adds up. -/
structure Handled.Accounted (channel : Channel) (handled : Handled) : Prop where
  received : handled.allCounts.count .received = 1
  crash : handled.allCounts.count .crashedWorker = [handled].countP Handled.isCrash
  crashFails : handled.allCounts.count .crashedWorker ≤ handled.allCounts.count .failedAnnouncement
  failures : handled.allCounts.countP Count.isError + handled.allCounts.count .crashedWorker =
    handled.allCounts.count .failedAnnouncement + handled.allCounts.count .failedPayload
  document : channel = .announce → handled.allCounts.countP Count.isDone +
    handled.allCounts.count .ignored + handled.allCounts.count .failedAnnouncement = 1
  archive : channel = .archive → handled.allCounts.count .ignored +
    handled.allCounts.count .failedAnnouncement + handled.report?.toList.length = 1
  documents : channel = .archive → handled.allCounts.countP Count.isDone +
    handled.allCounts.count .failedPayload =
      (handled.report?.toList.map ArchiveReport.payloadCount).sum
  truncation : channel = .archive → handled.allCounts.count .truncatedArchive =
    handled.report?.toList.countP fun report => report.truncated.isSome

theorem Handled.accounted_report (report : ArchiveReport) :
    (Handled.archive (.ok (.processed report))).Accounted .archive := by
  have all : (Handled.archive (.ok (.processed report))).allCounts = .received :: report.counts :=
    congrArg _ (List.append_nil _)
  have other (count : Count) (different : .received ≠ count) :
      (Handled.archive (.ok (.processed report))).allCounts.count count =
        report.counts.count count := by
    rw [all, List.count_cons_of_ne different]
  have ofDocuments {sort : Count → Bool} (different : sort .received = false) :
      (Handled.archive (.ok (.processed report))).allCounts.countP sort =
        report.counts.countP sort := by
    rw [all, List.countP_cons_of_neg (Bool.eq_false_iff.mp different)]
  have ignored : report.counts.count .ignored = 0 := report.count_of_foreign (by simp)
  have failed : report.counts.count .failedAnnouncement = 0 := report.count_of_foreign (by simp)
  have crashed : report.counts.count .crashedWorker = 0 := report.count_of_foreign (by simp)
  refine ⟨?_, ?_, ?_, ?_, nofun, fun _ => ?_, fun _ => ?_, fun _ => ?_⟩
  · rw [all, List.count_cons_self, report.count_of_foreign (by simp)]
  · rw [other .crashedWorker nofun, crashed]
    rfl
  · rw [other .crashedWorker nofun, crashed]
    exact Nat.zero_le _
  · rw [ofDocuments rfl, other .crashedWorker nofun, other .failedAnnouncement nofun,
      other .failedPayload nofun, report.countP_isError, crashed, failed,
      report.count_failedPayload, Nat.add_comm]
  · rw [other .ignored nofun, other .failedAnnouncement nofun, ignored, failed]
    rfl
  · rw [ofDocuments rfl, other .failedPayload nofun, report.countP_isDone,
      report.count_failedPayload]
    exact (Nat.add_zero _).symm
  · rw [other .truncatedArchive nofun, report.count_truncatedArchive]
    simp [report?]

theorem Handled.accounted {channel : Channel} {handled : Handled}
    (on : handled.isOn channel = true) : handled.Accounted channel := by
  cases handled with
  | blob result =>
      obtain rfl : channel = .announce := of_decide_eq_true on
      rcases result with (failure | _) | ((_ | _) | _)
      · exact ⟨rfl, rfl, Nat.zero_le _, rfl, fun _ => rfl, nofun, nofun, nofun⟩
      · exact ⟨rfl, rfl, Nat.le_refl _, rfl, fun _ => rfl, nofun, nofun, nofun⟩
      · exact ⟨rfl, rfl, Nat.le_refl _, rfl, fun _ => rfl, nofun, nofun, nofun⟩
      · exact ⟨rfl, rfl, Nat.le_refl _, rfl, fun _ => rfl, nofun, nofun, nofun⟩
      · exact ⟨rfl, rfl, Nat.le_refl _, rfl, fun _ => rfl, nofun, nofun, nofun⟩
  | archive result =>
      obtain rfl : channel = .archive := of_decide_eq_true on
      rcases result with (failure | _) | (report | _)
      · exact ⟨rfl, rfl, Nat.zero_le _, rfl, nofun, fun _ => rfl, fun _ => rfl, fun _ => rfl⟩
      · exact ⟨rfl, rfl, Nat.le_refl _, rfl, nofun, fun _ => rfl, fun _ => rfl, fun _ => rfl⟩
      · exact accounted_report report
      · exact ⟨rfl, rfl, Nat.le_refl _, rfl, nofun, fun _ => rfl, fun _ => rfl, fun _ => rfl⟩

/-! ## Tallies are balanced -/

theorem balanced_fresh (channel : Channel) : Balanced channel [] {} where
  received := rfl
  crashes := rfl
  crashesFail := Nat.le_refl _
  errors := rfl
  announcements := fun _ => rfl
  archives := fun _ => rfl
  documents := fun _ => rfl
  truncations := fun _ => rfl

/-- To record one more announcement of the channel keeps a tally balanced. -/
theorem Balanced.record {channel : Channel} {handled : List Handled} {tally : Tally}
    (balanced : Balanced channel handled tally) {last : Handled}
    (on : last.isOn channel = true) : Balanced channel (last :: handled) (tally.record last) := by
  have accounted := Handled.accounted on
  have received : (tally.record last).received =
      tally.received + last.allCounts.count .received := tally.get_record last .received
  have ignored : (tally.record last).ignored =
      tally.ignored + last.allCounts.count .ignored := tally.get_record last .ignored
  have failed : (tally.record last).failedAnnouncements =
      tally.failedAnnouncements + last.allCounts.count .failedAnnouncement :=
    tally.get_record last .failedAnnouncement
  have applied : (tally.record last).applied =
      tally.applied + last.allCounts.count .applied := tally.get_record last .applied
  have duplicates : (tally.record last).duplicates =
      tally.duplicates + last.allCounts.count .duplicate := tally.get_record last .duplicate
  have failedPayloads : (tally.record last).failedPayloads =
      tally.failedPayloads + last.allCounts.count .failedPayload :=
    tally.get_record last .failedPayload
  have truncated : (tally.record last).truncatedArchives =
      tally.truncatedArchives + last.allCounts.count .truncatedArchive :=
    tally.get_record last .truncatedArchive
  have crashed : (tally.record last).crashedWorkers =
      tally.crashedWorkers + last.allCounts.count .crashedWorker :=
    tally.get_record last .crashedWorker
  have errors : (ErrorKind.all.map (tally.record last).errors).sum =
      (ErrorKind.all.map tally.errors).sum + last.allCounts.countP Count.isError := by
    rw [← sum_count_error, ← List.sum_map_add]
    exact congrArg List.sum (List.map_congr_left fun kind _ => tally.get_record last (.error kind))
  have done := count_applied_add_count_duplicate last.allCounts
  have reports : (last :: handled).filterMap Handled.report? =
      last.report?.toList ++ handled.filterMap Handled.report? := by
    cases found : last.report? <;> simp [found]
  refine ⟨?_, ?_, ?_, ?_, fun announce => ?_, fun archive => ?_, fun archive => ?_,
    fun archive => ?_⟩
  · rw [received, balanced.received, accounted.received, List.length_cons]
  · rw [crashed, balanced.crashes, accounted.crash, Nat.add_comm]
    exact List.countP_append.symm
  · have before := balanced.crashesFail
    have here := accounted.crashFails
    omega
  · have before := balanced.errors
    have fewer := balanced.crashesFail
    have here := accounted.failures
    have fewerHere := accounted.crashFails
    omega
  · have before := balanced.announcements announce
    have here := accounted.document announce
    have one := accounted.received
    omega
  · have before := balanced.archives archive
    have here := accounted.archive archive
    have one := accounted.received
    rw [reports, List.length_append]
    omega
  · have before := balanced.documents archive
    have here := accounted.documents archive
    rw [reports, List.map_append, List.sum_append]
    omega
  · rw [truncated, balanced.truncations archive, accounted.truncation archive, reports,
      List.countP_append, Nat.add_comm]

/-- The tally of announcements of a channel, worked on one after the other, is balanced. -/
theorem balanced_ofHandled {channel : Channel} {handled : List Handled}
    (on : ∀ one ∈ handled, one.isOn channel = true) :
    Balanced channel handled (Tally.ofHandled handled) := by
  induction handled with
  | nil => exact balanced_fresh channel
  | cons last rest ih =>
      obtain ⟨lastOn, restOn⟩ := List.forall_mem_cons.mp on
      exact (ih restOn).record lastOn

/-- A tally that counted all there is to count of announcements of a channel is balanced, in
whatever order it did. -/
theorem balanced_of_get {channel : Channel} {handled : List Handled} {tally : Tally}
    (on : ∀ one ∈ handled, one.isOn channel = true)
    (counts : ∀ count, tally.get count = (handled.flatMap Handled.allCounts).count count) :
    Balanced channel handled tally := by
  have same : tally = Tally.ofHandled handled := Tally.ext_get fun count => by
    rw [counts, Tally.get_ofHandled]
  exact same ▸ balanced_ofHandled on

end JarLedger
