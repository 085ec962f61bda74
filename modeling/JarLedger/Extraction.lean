import JarLedger.Failure
import JarLedger.Tar.Entries
import JarLedger.Text.Search

/-!
# Taking documents out of a snapshot

A snapshot is one compressed document, or a compressed archive of which the entries in the data
directory are documents.  An archive is walked entry by entry: other entries and empty ones are
passed over, and the first failure is handed out once and ends the walk.
-/

namespace JarLedger
namespace Extraction

/-- What a walk hands out: the text of a document, or a failure. -/
abbrev Item : Type := Except ExtractionError String

/-- The text of a compressed document, with U+FFFD in the place of damaged characters. -/
def document (compressed : List UInt8) : Item :=
  match Gzip.decompress? compressed with
  | some bytes => .ok (Utf8.lossy bytes)
  | none => .error .blob

/-- Whether a path leads into the data directory. -/
def isWanted (directory : String) (path : List UInt8) : Bool :=
  Text.contains (Utf8.lossy path) directory

/-- A path leads into the data directory if the directory stands somewhere in it. -/
theorem isWanted_iff {directory : String} {path : List UInt8} :
    isWanted directory path = true ↔ directory.toList <:+: (Utf8.lossy path).toList :=
  Text.occursIn_iff

/-- The next item of a walk, if there is one, and the entries after it. -/
def next (directory : String) : Tar.Entries → Option Item × Tar.Entries
  | .done => (none, .done)
  | .failed => (some (.error .archive), .done)
  | .unnamed _ => (some (.error .archive), .done)
  | .entry path body rest =>
      if !isWanted directory path then next directory rest
      else
        match body with
        | none => (some (.error .archive), .done)
        | some [] => next directory rest
        | some (first :: more) => (some (.ok (Utf8.lossy (first :: more))), rest)

/-- How often a walk can go on at most. -/
def size : Tar.Entries → Nat
  | .done => 0
  | .failed => 1
  | .unnamed rest => size rest + 1
  | .entry _ _ rest => size rest + 1

theorem size_next {directory : String} {entries rest : Tar.Entries} {item : Item}
    (found : next directory entries = (some item, rest)) : size rest < size entries := by
  induction entries with
  | done => simp [next] at found
  | failed =>
      simp only [next, Prod.mk.injEq] at found
      rw [← found.2]
      decide
  | unnamed tail =>
      simp only [next, Prod.mk.injEq] at found
      rw [← found.2]
      exact Nat.succ_pos _
  | entry path body tail ih =>
      simp only [next] at found
      split at found
      · exact Nat.lt_succ_of_lt (ih found)
      · split at found
        · simp only [Prod.mk.injEq] at found
          rw [← found.2]
          exact Nat.succ_pos _
        · exact Nat.lt_succ_of_lt (ih found)
        · simp only [Prod.mk.injEq] at found
          rw [← found.2]
          exact Nat.lt_succ_self _

/-- All items of a walk. -/
def walk (directory : String) (entries : Tar.Entries) : List Item :=
  match _found : next directory entries with
  | (none, _) => []
  | (some item, rest) => item :: walk directory rest
termination_by size entries
decreasing_by exact size_next _found

/-- A snapshot archive as it is read. -/
structure Archive where
  /-- The unpacked bytes that are still to be read. -/
  content : Unpacked
  /-- Whether bytes of it are read already. -/
  started : Bool := false

namespace Archive

/-- The archive of a compressed source, before its first byte is read. -/
def ofSource (source : ByteSource) : Archive := { content := Gzip.unpack source }

/-- The entries that a walk would meet.  An archive of which bytes are read already cannot be listed
again. -/
def entries (archive : Archive) : Tar.Entries :=
  if archive.started then .failed else Tar.entries archive.content

/-- The archive after a walk to its end.  A fault that is reported once is the end of the data from
then on. -/
def afterWalk (archive : Archive) : Archive where
  content :=
    match archive.content.ending with
    | .refused => { archive.content with ending := .whole }
    | _ => archive.content
  started := archive.started || !archive.content.bytes.isEmpty

/-- The documents in the data directory, and the archive afterwards. -/
def documents (archive : Archive) (directory : String) : List Item × Archive :=
  (walk directory archive.entries, archive.afterWalk)

end Archive
end Extraction
end JarLedger
