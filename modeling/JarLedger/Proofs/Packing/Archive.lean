import JarLedger.Proofs.Archive.Walk
import JarLedger.Proofs.Packing.Gzip
import JarLedger.Proofs.Packing.Tar

/-!
# Packing a snapshot archive

`packed` makes a source of files, and of bytes that follow the last of them in the archive.  With
nothing after the files it is whole; a walk hands out the documents among the files.
-/

namespace JarLedger

open Tar (File)

/-- The source of an archive of files, with bytes after the last file. -/
def packed (files : List File) (tail : List UInt8) : ByteSource where
  bytes := Gzip.pack (Tar.pack files ++ tail)

variable {files : List File} {tail : List UInt8}

theorem entries_packed (short : (Tar.pack files ++ tail).length ≤ 0xFFFF) :
    (Extraction.Archive.ofSource (packed files tail)).entries =
      .listing files (Tar.entriesFrom .whole {} (Tar.pack files).length tail) := by
  have near : 0 + (Tar.pack files).length < Tar.wordLimit := by
    rw [List.length_append] at short
    rw [Nat.zero_add]
    exact Nat.lt_of_le_of_lt (Nat.le_trans (Nat.le_add_right _ _) short) (by decide)
  rw [Extraction.entries_ofSource, packed, Gzip.unpack_pack _ short, Tar.entries,
    Tar.entriesFrom_pack _ _ _ _ near, Nat.zero_add]

theorem Tar.Entries.full_listing (files : List File) (rest : Entries) :
    (listing files rest).full = files.map (fun file => (file.path, file.body)) ++ rest.full := by
  induction files with
  | nil => rfl
  | cons file files ih => exact congrArg ((file.path, file.body) :: ·) ih

theorem Tar.Entries.isWhole_listing (files : List File) (rest : Entries) :
    (listing files rest).isWhole = rest.isWhole := by
  induction files with
  | nil => rfl
  | cons file files ih => exact ih

/-- An archive of nothing but files is whole. -/
theorem entries_packed_whole (short : (Tar.pack files).length ≤ 0xFFFF) :
    (Extraction.Archive.ofSource (packed files [])).entries.full =
        files.map (fun file => (file.path, file.body)) ∧
      (Extraction.Archive.ofSource (packed files [])).entries.isWhole = true := by
  have ended : Tar.entriesFrom .whole {} (Tar.pack files).length [] = .done := by
    rw [Tar.entriesFrom]
    rfl
  rw [entries_packed (by rwa [List.append_nil]), ended, Tar.Entries.full_listing,
    Tar.Entries.isWhole_listing]
  exact ⟨List.append_nil _, rfl⟩

/-- A byte too many begins a header that never ends. -/
theorem entries_packed_cut (byte : UInt8) (short : (Tar.pack files).length < 0xFFFF) :
    (Extraction.Archive.ofSource (packed files [byte])).entries.full =
        files.map (fun file => (file.path, file.body)) ∧
      (Extraction.Archive.ofSource (packed files [byte])).entries.isWhole = false := by
  have ended : Tar.entriesFrom .whole {} (Tar.pack files).length [byte] = .failed := by
    rw [Tar.entriesFrom]
    rfl
  rw [entries_packed (by rwa [List.length_append]), ended, Tar.Entries.full_listing,
    Tar.Entries.isWhole_listing]
  exact ⟨List.append_nil _, rfl⟩

/-- A walk through packed files hands out the documents among them. -/
theorem documents_packed (directory : String) (short : (Tar.pack files).length ≤ 0xFFFF) :
    ((Extraction.Archive.ofSource (packed files [])).documents directory).1 =
      (Extraction.documentsOf directory
        (files.map fun file => (file.path, file.body))).map .ok := by
  obtain ⟨full, whole⟩ := entries_packed_whole short
  rw [Extraction.documents_ofSource, full, whole]
  exact List.append_nil _

/-- An envelope of an archive. -/
def runtimesEnvelope : String :=
  "\x7b\"org_id\":\"o\",\"timestamp\":\"1970-01-01T00:00:00Z\"," ++
    "\"is_runtimes\":true,\"url\":\"u\"\x7d"

/-- A machine. -/
def machineFile : Tar.File where
  path := Utf8.encode "i/data/var/tmp/insights-runtimes/uploads/m"
  body := Utf8.encode ("\x7b\"idHash\":\"k\"," ++
    "\"basic\":\x7b\"system.hostname\":\"h\",\"jvm.report_time\":1\x7d\x7d")
  short := by decide +kernel
  unbroken := by decide +kernel
  small := by decide +kernel

end JarLedger
