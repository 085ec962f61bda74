import JarLedger.Extraction

/-!
# Walks to the end of an archive or to its damage

Whatever the bytes of an archive are, a body that cannot be read leads to nothing but failure
(`Tar.sound_entriesFrom`).  So a walk hands out the documents among the entries that are read in
full, and then nothing or, if the archive does not reach its end, one failure
(`Extraction.walk_eq`).
-/

namespace JarLedger
namespace Tar

namespace Entries

/-- The paths and bodies of the entries before the end or the first failure. -/
def full : Entries → List (List UInt8 × List UInt8)
  | .done | .failed | .unnamed _ | .entry _ none _ => []
  | .entry path (some body) rest => (path, body) :: rest.full

/-- Whether the end is reached without a failure. -/
def isWhole : Entries → Bool
  | .done => true
  | .failed | .unnamed _ | .entry _ none _ => false
  | .entry _ (some _) rest => rest.isWhole

/-- A body that cannot be read leads to nothing but failure. -/
def Sound : Entries → Prop
  | .done | .failed | .unnamed _ => True
  | .entry _ none rest => rest = .failed
  | .entry _ (some _) rest => rest.Sound

end Entries

open Entries

theorem sound_entriesFrom (ending : Ending) (described : Described) (position : Nat)
    (bytes : List UInt8) : (entriesFrom ending described position bytes).Sound := by
  have nothingMore {described : Described} :
      (if described.any then Entries.failed else .done).Sound := by split <;> trivial
  fun_induction entriesFrom ending described position bytes with
  | case1 => exact nothingMore
  | case3 => exact nothingMore
  | case9 described position bytes _ _ _ _ _ _ _ _ _ _ _ _ _ _ ih => exact ih
  | case11 described position bytes _ _ _ _ _ _ size _ skipped _ _ _ data _ body _ rest ih =>
      -- What is left of a body that is cut short is less than what is skipped after it.
      by_cases cut : data.length < size ∧ ending ≠ .whole
      · have unread : body = none := if_pos cut
        rw [unread]
        exact if_pos (Nat.lt_of_lt_of_le cut.1 (le_roundedUp size))
      · have read : body = some _ := if_neg cut
        rw [read]
        by_cases short : data.length < skipped
        · have failed : rest = .failed := if_pos short
          rw [failed]
          trivial
        · have onward : rest = entriesFrom _ _ _ _ := if_neg short
          rw [onward]
          exact ih
  | _ => trivial

end Tar

namespace Extraction

/-- The text of the document that an entry is, if it is one. -/
def documentOf? (directory : String) (entry : List UInt8 × List UInt8) : Option String :=
  if isWanted directory entry.1 && !entry.2.isEmpty then some (Utf8.lossy entry.2) else none

/-- The texts of the documents among entries. -/
def documentsOf (directory : String) (entries : List (List UInt8 × List UInt8)) : List String :=
  entries.filterMap (documentOf? directory)

/-- Entries that are no documents are passed over. -/
theorem next_read (directory : String) (path body : List UInt8) (rest : Tar.Entries) :
    next directory (.entry path (some body) rest) =
      match documentOf? directory (path, body) with
      | none => next directory rest
      | some text => (some (.ok text), rest) := by
  simp only [next, documentOf?]
  cases isWanted directory path <;> cases body <;> rfl

/-- The failure to read a body is handed out, now or at the next entry. -/
theorem next_unread (directory : String) (path : List UInt8) :
    next directory (.entry path none .failed) = (some (.error .archive), .done) := by
  simp only [next]
  cases isWanted directory path <;> rfl

theorem walk_none {directory : String} {entries rest : Tar.Entries}
    (ended : next directory entries = (none, rest)) : walk directory entries = [] := by
  rw [walk]
  split
  · rfl
  · next found => rw [ended] at found; cases found

theorem walk_some {directory : String} {entries rest : Tar.Entries} {item : Item}
    (found : next directory entries = (some item, rest)) :
    walk directory entries = item :: walk directory rest := by
  rw [walk]
  split
  · next ended => rw [found] at ended; cases ended
  · next found' =>
    rw [found] at found'
    cases found'
    rfl

/-- A walk goes by what it meets next. -/
theorem walk_congr {directory : String} {entries others : Tar.Entries}
    (same : next directory entries = next directory others) :
    walk directory entries = walk directory others := by
  cases onward : next directory others with
  | mk item rest =>
      cases item with
      | none => rw [walk_none onward, walk_none (same.trans onward)]
      | some item => rw [walk_some onward, walk_some (same.trans onward)]

theorem walk_done (directory : String) : walk directory .done = [] := walk_none rfl

theorem walk_failed (directory : String) : walk directory .failed = [.error .archive] := by
  rw [walk_some rfl, walk_done]

theorem walk_unnamed (directory : String) (rest : Tar.Entries) :
    walk directory (.unnamed rest) = [.error .archive] := by
  rw [walk_some rfl, walk_done]

/-- A walk hands out the documents among the entries before the end or the first failure, and then
the failure once. -/
theorem walk_eq (directory : String) {entries : Tar.Entries} (sound : entries.Sound) :
    walk directory entries = (documentsOf directory entries.full).map .ok ++
      if entries.isWhole then [] else [.error .archive] := by
  induction entries with
  | done => exact walk_done directory
  | failed => exact walk_failed directory
  | unnamed rest => exact walk_unnamed directory rest
  | entry path body rest ih =>
      cases body with
      | none =>
          obtain rfl : rest = .failed := sound
          rw [walk_some (next_unread directory path), walk_done]
          rfl
      | some body =>
          have met := next_read directory path body rest
          rw [Tar.Entries.full, documentsOf, Tar.Entries.isWhole]
          cases text : documentOf? directory (path, body) with
          | none =>
              rw [text] at met
              rw [walk_congr met, ih sound, List.filterMap_cons_none text]
              rfl
          | some document =>
              rw [text] at met
              rw [walk_some met, ih sound, List.filterMap_cons_some text]
              rfl

theorem entries_ofSource (source : ByteSource) :
    (Archive.ofSource source).entries = Tar.entries (Gzip.unpack source) := rfl

/-- What a walk through a fresh archive hands out. -/
theorem documents_ofSource (source : ByteSource) (directory : String) :
    ((Archive.ofSource source).documents directory).1 =
      (documentsOf directory (Archive.ofSource source).entries.full).map .ok ++
        if (Archive.ofSource source).entries.isWhole then [] else [.error .archive] :=
  walk_eq directory (Tar.sound_entriesFrom _ _ _ _)

end Extraction
end JarLedger
