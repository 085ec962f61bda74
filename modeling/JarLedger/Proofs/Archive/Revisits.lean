import JarLedger.Proofs.Archive.TapeWalk
import JarLedger.Proofs.Packing.Archive

/-!
# Walking through an archive again

Each walk takes bytes off one tape, and an archive that is not at its start refuses to be listed.
The first walk takes a byte exactly if there is one.  So no later walk hands out a document: it is
refused once, unless the source gives no byte and no lasting fault, and then it is empty
(`Extraction.walks_again`).
-/

namespace JarLedger

open Extraction (Archive Item walk)
open Tar (blockSize)

namespace Gzip

/-- Nothing is unpacked from a source, and no fault stays: no header stands at its front, or the
member is empty and its trailer is there, whether or not it fits. -/
def IsBlank (source : ByteSource) : Prop :=
  skipHeader? source.bytes = none ∨
    ∃ rest trailer, skipHeader? source.bytes = some rest ∧
      Inflate.run rest = ([], .ok trailer) ∧ 8 ≤ trailer.length

theorem isBlank_iff (source : ByteSource) :
    IsBlank source ↔ (unpack source).bytes = [] ∧ (unpack source).ending ≠ .broken := by
  rw [IsBlank, unpack]
  cases skipHeader? source.bytes with
  | none => simp
  | some rest =>
      simp only [reduceCtorEq, false_or, Option.some.injEq, exists_and_left, exists_eq_left']
      obtain ⟨body, result⟩ := Inflate.run rest
      cases result with
      | error fault => cases fault <;> simp
      | ok trailer =>
          rcases Nat.lt_or_ge trailer.length 8 with short | enough
          · simp only [short, if_true]
            split <;> simp [short]
          · have filled : trailer.isEmpty = false := by
              rw [List.isEmpty_eq_false_iff, ← List.length_pos_iff]
              omega
            simp only [filled, Nat.not_lt.mpr enough, Bool.false_eq_true, and_false, if_false]
            split <;> simp [enough]

end Gzip

/-- The archive after so many walks. -/
def Extraction.Archive.visited (archive : Archive) (directory : String) : Nat → Archive
  | 0 => archive
  | walks + 1 => ((archive.visited directory walks).documents directory).2

namespace Tape

/-- Walk through an archive to its end.  One that is not at its start is refused. -/
def documents (tape : Tape) (directory : String) : List Item × Tape :=
  if tape.position ≠ 0 then ([.error .archive], tape) else tape.walkFrom directory {} 0

/-- The tape after so many walks. -/
def visited (tape : Tape) (directory : String) : Nat → Tape
  | 0 => tape
  | walks + 1 => ((tape.visited directory walks).documents directory).2

variable {tape : Tape} {archive : Archive} {directory : String}

theorem meet_start (start : tape.position = 0) :
    (tape.meet 0).2 = (tape.read blockSize).2 := by
  rw [← start, meet_here]

/-- A first walk takes a byte if there is one. -/
theorem position_walkFrom (directory : String) (start : tape.position = 0)
    (filled : tape.rest.bytes ≠ []) :
    (tape.walkFrom directory {} 0).2.position ≠ 0 := by
  have onto := (onto_walkFrom directory tape {} 0).position_le
  have positive := List.length_pos_iff.mpr filled
  have block : blockSize = 512 := rfl
  simp only [meet_start start, read, start, List.length_take] at onto
  omega

/-- A walk through nothing takes nothing, and meets the end. -/
theorem walkFrom_nothing (start : tape.position = 0) (empty : tape.rest.bytes = []) :
    (tape.walkFrom directory {} 0).2 = ⟨⟨[], tape.rest.ending.reported⟩, 0⟩ := by
  have short : tape.rest.bytes.length < blockSize := by
    rw [empty]
    decide
  obtain ⟨count, after⟩ := onto_walkFrom directory tape {} 0
  rw [after, meet_start start, read_of_short short, start, empty]
  cases count with
  | zero => exact congrArg Prod.snd (read_zero _)
  | succ more =>
      rw [read_of_short (Nat.succ_pos more), Ending.reported_reported]
      rfl

/-- A tape is where an archive is said to be. -/
structure Stands (tape : Tape) (archive : Archive) : Prop where
  started : archive.started = true ↔ tape.position ≠ 0
  rest : archive.started = false → tape.rest = archive.content

namespace Stands

theorem ofUnpacked (content : Unpacked) : Stands ⟨content, 0⟩ { content } :=
  ⟨iff_of_false Bool.false_ne_true (absurd rfl), fun _ => rfl⟩

/-- Of an archive at its start the tape gives what the archive holds. -/
theorem walkFrom (stands : tape.Stands archive) (fresh : archive.started = false) :
    (tape.walkFrom directory {} 0).1 = (archive.documents directory).1 ∧
      (tape.walkFrom directory {} 0).2.Stands archive.afterWalk := by
  have start : tape.position = 0 := by
    by_contra moved
    rw [stands.started.mpr moved] at fresh
    cases fresh
  have same := stands.rest fresh
  have listed : archive.entries = Tar.entries archive.content :=
    if_neg (by rw [fresh]; exact Bool.false_ne_true)
  refine ⟨?_, ?_⟩
  · have seen := entriesAt_here tape {}
    rw [start, same] at seen
    rw [walkFrom_eq directory tape {} 0 (Nat.le_of_eq start), seen, Archive.documents, listed]
    rfl
  · by_cases empty : archive.content.bytes = []
    · rw [walkFrom_nothing start (by rw [same, empty]), same]
      constructor
      · simp [Archive.afterWalk, fresh, empty]
      · intro _
        obtain ⟨⟨bytes, ending⟩, _⟩ := archive
        obtain rfl : bytes = [] := empty
        cases ending <;> rfl
    · have moved := position_walkFrom directory start (by rwa [same])
      constructor
      · simp [Archive.afterWalk, empty, moved]
      · simp [Archive.afterWalk, empty]

/-- A walk takes off the tape what the archive hands out, and leaves both at the same place. -/
theorem documents (stands : tape.Stands archive) :
    (tape.documents directory).1 = (archive.documents directory).1 ∧
      (tape.documents directory).2.Stands (archive.documents directory).2 := by
  cases started : archive.started with
  | false =>
      have start : ¬ tape.position ≠ 0 := by simp [← stands.started, started]
      rw [Tape.documents, if_neg start]
      exact stands.walkFrom started
  | true =>
      have moved := stands.started.mp started
      have listed : archive.entries = .failed := if_pos started
      rw [Tape.documents, if_pos moved, Archive.documents, listed, Extraction.walk_failed]
      exact ⟨rfl, by simp [Archive.afterWalk, started, moved], by simp [Archive.afterWalk, started]⟩

theorem visited (stands : tape.Stands archive) (walks : Nat) :
    (tape.visited directory walks).Stands (archive.visited directory walks) := by
  induction walks with
  | zero => exact stands
  | succ walks ih => exact ih.documents.2

end Stands

end Tape

namespace Extraction

theorem Archive.afterWalk_afterWalk (archive : Archive) :
    archive.afterWalk.afterWalk = archive.afterWalk := by
  obtain ⟨⟨bytes, ending⟩, started⟩ := archive
  cases ending <;> cases started <;> cases bytes <;> rfl

/-- After the first walk no other one changes anything. -/
theorem Archive.visited_succ (archive : Archive) (directory : String) (walks : Nat) :
    archive.visited directory (walks + 1) = archive.afterWalk := by
  induction walks with
  | zero => rfl
  | succ walks ih =>
      rw [Archive.visited, ih]
      exact archive.afterWalk_afterWalk

/-- What there is to see in an archive that was walked through before. -/
theorem entries_afterWalk (source : ByteSource) :
    (Archive.ofSource source).afterWalk.entries =
      if (Gzip.unpack source).bytes = [] ∧ (Gzip.unpack source).ending ≠ .broken then .done
      else .failed := by
  have nothing (ending : Ending) :
      Tar.entries ⟨[], ending⟩ = if ending = .whole then .done else .failed := by
    rw [Tar.entries, Tar.entriesFrom]
    cases ending <;> rfl
  rw [Archive.ofSource]
  obtain ⟨bytes, ending⟩ := Gzip.unpack source
  cases bytes with
  | cons first rest => rfl
  | nil => cases ending <;> exact nothing _

/-- An archive can be walked through once.  Read byte by byte it hands out the same, and after a
walk it is at its start exactly if the source gives no byte.  No later walk hands out a document; it
is refused with one failure, or, exactly if the source gives no byte and no lasting fault, it hands
out nothing. -/
theorem walks_again (source : ByteSource) (directory : String) :
    let archive := (Archive.ofSource source).visited directory
    let tape := Tape.visited ⟨Gzip.unpack source, 0⟩ directory
    let handed walks := ((archive walks).documents directory).1
    (∀ walks, ((tape walks).documents directory).1 = handed walks) ∧
    (∀ walks, (tape (walks + 1)).position = 0 ↔ (Gzip.unpack source).bytes = []) ∧
    (∀ walks, handed (walks + 1) = [.error .archive] ∨ handed (walks + 1) = []) ∧
    (∀ walks, handed (walks + 1) = [.error .archive] ↔ ¬ Gzip.IsBlank source) := by
  intro archive tape handed
  have stands (walks : Nat) : (tape walks).Stands (archive walks) :=
    (Tape.Stands.ofUnpacked (Gzip.unpack source)).visited walks
  have again (walks : Nat) : archive (walks + 1) = (Archive.ofSource source).afterWalk :=
    Archive.visited_succ _ directory walks
  have later (walks : Nat) : handed (walks + 1) =
      walk directory (Archive.ofSource source).afterWalk.entries := by
    rw [← again walks]
    rfl
  refine ⟨fun walks => (stands walks).documents.1, fun walks => ?_, fun walks => ?_,
    fun walks => ?_⟩
  · rw [← not_iff_not, ← ne_eq, ← (stands (walks + 1)).started, again]
    simp [Archive.afterWalk, Archive.ofSource]
  · rw [later, entries_afterWalk]
    split
    · exact .inr (walk_done directory)
    · exact .inl (walk_failed directory)
  · rw [later, entries_afterWalk, Gzip.isBlank_iff]
    split
    · next blank => simp [walk_done, blank]
    · next filled => simpa [walk_failed] using filled

/-- An archive without a byte is not refused when it is walked through again. -/
theorem documents_again_emptyArchive :
    let archive := Archive.ofSource (packed [] [])
    (archive.documents "d").1 = [] ∧ ((archive.documents "d").2.documents "d").1 = [] := by
  intro archive
  have unpacked : Gzip.unpack (packed [] []) = ⟨[], .whole⟩ := Gzip.unpack_pack [] (by decide)
  refine ⟨documents_packed "d" (by decide), ?_⟩
  change walk "d" archive.afterWalk.entries = []
  rw [entries_afterWalk, unpacked]
  exact walk_done "d"

end Extraction

end JarLedger
