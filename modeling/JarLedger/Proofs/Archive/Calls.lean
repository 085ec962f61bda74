import JarLedger.Proofs.Archive.Walk
import Mathlib.Data.List.Basic

/-!
# A walk call by call

A walk is asked for one item after the other.  Whatever a reader delivers, and whatever comes after
a failure, the walk stops at the first header or path, or body of an entry in the data directory,
that cannot be read.  The documents before that come in order, then the failure once, and every
later call answers nothing; no call looks at an entry that an earlier one has taken
(`Extraction.walk_call_by_call`).
-/

namespace JarLedger

namespace Utf8

/-- A byte is seen: it is part of a character that was read or begun. -/
theorem finish_step_ne_nil (decoder : Decoder) (byte : UInt8) :
    (decoder.step byte).finish ≠ [] := by
  have first (decoder : Decoder) (byte : Nat) : (decoder.first byte).finish ≠ [] := by
    simp only [Decoder.first]
    repeat' split
    all_goals simp [Decoder.finish]
  rw [Decoder.step]
  split
  · exact first _ _
  · dsimp only
    repeat' split
    · simp [Decoder.finish]
    · simp [Decoder.finish]
    · exact first _ _

/-- Bytes that are shown as a text leave something to see. -/
theorem lossy_ne_empty {bytes : List UInt8} (some : bytes ≠ []) : lossy bytes ≠ "" := by
  rw [← List.dropLast_append_getLast some, lossy, characters, List.foldl_append, List.foldl_cons,
    List.foldl_nil, Ne, String.ofList_eq_empty_iff, List.map_eq_nil_iff]
  exact finish_step_ne_nil _ _

end Utf8

namespace Tar

/-- One thing that a reader of an archive delivers. -/
inductive Reading where
  /-- No header can be read. -/
  | broken
  /-- An entry whose path cannot be read. -/
  | unnamed
  /-- An entry with its path, and its body unless that cannot be read. -/
  | entry (path : List UInt8) (body : Option (List UInt8))

/-- What is delivered, one thing after the other. -/
def Entries.readings : Entries → List Reading
  | .done => []
  | .failed => [.broken]
  | .unnamed rest => .unnamed :: rest.readings
  | .entry path body rest => .entry path body :: rest.readings

end Tar

namespace Extraction

variable (directory : String)

/-- Whether a walk ends in a failure here.  The body of an entry elsewhere is not read. -/
def stopsAt : Tar.Reading → Bool
  | .broken | .unnamed => true
  | .entry path none => isWanted directory path
  | .entry _ (some _) => false

/-- The text of the document that is delivered, if it is one. -/
def textOf? : Tar.Reading → Option String
  | .entry path (some body) => documentOf? directory (path, body)
  | _ => none

/-- The texts of the documents before the failure that ends a walk. -/
def textsBefore (readings : List Tar.Reading) : List String :=
  (readings.takeWhile fun reading => !stopsAt directory reading).filterMap (textOf? directory)

/-- What is left of a sequence of entries after so many calls. -/
def after (entries : Tar.Entries) : Nat → Tar.Entries
  | 0 => entries
  | calls + 1 => (next directory (after entries calls)).2

variable {directory}

theorem after_succ (entries : Tar.Entries) (calls : Nat) :
    after directory entries (calls + 1) = after directory (next directory entries).2 calls := by
  induction calls with
  | zero => rfl
  | succ calls ih => rw [after, ih, after]

/-- An entry elsewhere is passed over, whatever its body is. -/
theorem next_unwanted {path : List UInt8} (elsewhere : isWanted directory path = false)
    (body : Option (List UInt8)) (rest : Tar.Entries) :
    next directory (.entry path body rest) = next directory rest := by
  simp only [next, elsewhere, Bool.not_false, if_true]

/-- A walk ends at the body of a wanted entry that cannot be read, whatever would follow. -/
theorem next_wanted_unread {path : List UInt8} (wanted : isWanted directory path = true)
    (rest : Tar.Entries) :
    next directory (.entry path none rest) = (some (.error .archive), .done) := by
  simp only [next, wanted, Bool.not_true, Bool.false_eq_true, if_false]

theorem textsBefore_of_stops {reading : Tar.Reading} (stops : stopsAt directory reading = true)
    (rest : List Tar.Reading) : textsBefore directory (reading :: rest) = [] := by
  rw [textsBefore, List.takeWhile_cons_of_neg (by simp [stops]), List.filterMap_nil]

theorem textsBefore_of_passes {reading : Tar.Reading} (passes : stopsAt directory reading = false)
    (rest : List Tar.Reading) :
    textsBefore directory (reading :: rest) =
      (textOf? directory reading).toList ++ textsBefore directory rest := by
  rw [textsBefore, List.takeWhile_cons_of_pos (by simp [passes]), textsBefore]
  cases text : textOf? directory reading with
  | none => exact List.filterMap_cons_none text
  | some found => exact List.filterMap_cons_some text

/-- A walk hands out the documents before the first failure, and then the failure. -/
theorem walk_eq_textsBefore (entries : Tar.Entries) :
    walk directory entries = (textsBefore directory entries.readings).map .ok ++
      if entries.readings.any (stopsAt directory) then [.error .archive] else [] := by
  induction entries with
  | done => exact walk_done directory
  | failed => exact walk_failed directory
  | unnamed rest => exact walk_unnamed directory rest
  | entry path body rest ih =>
      rw [Tar.Entries.readings, List.any_cons]
      cases body with
      | none =>
          have goesBy : stopsAt directory (.entry path none) = isWanted directory path := rfl
          cases wanted : isWanted directory path with
          | true =>
              rw [walk_some (next_wanted_unread wanted rest), walk_done,
                textsBefore_of_stops (goesBy.trans wanted), goesBy, wanted]
              rfl
          | false =>
              rw [walk_congr (next_unwanted wanted none rest), ih,
                textsBefore_of_passes (goesBy.trans wanted), goesBy, wanted, Bool.false_or]
              rfl
      | some body =>
          have passes : stopsAt directory (.entry path (some body)) = false := rfl
          have same : textOf? directory (.entry path (some body)) =
              documentOf? directory (path, body) := rfl
          have met := next_read directory path body rest
          rw [textsBefore_of_passes passes, passes, Bool.false_or, same]
          cases text : documentOf? directory (path, body) with
          | none =>
              rw [text] at met
              rw [walk_congr met, ih]
              rfl
          | some document =>
              rw [text] at met
              rw [walk_some met, ih]
              rfl

/-- A document is the text of a body that is not empty, under a path in the data directory. -/
theorem exists_entry_of_textOf? {reading : Tar.Reading} {text : String}
    (found : textOf? directory reading = some text) :
    ∃ path body, reading = .entry path (some body) ∧
      directory.toList <:+: (Utf8.lossy path).toList ∧ body ≠ [] ∧ text = Utf8.lossy body := by
  cases reading with
  | entry path body =>
      cases body with
      | none => cases found
      | some body =>
          rw [textOf?, documentOf?, Option.ite_none_right_eq_some, Bool.and_eq_true,
            Bool.not_eq_true', List.isEmpty_eq_false_iff, isWanted_iff] at found
          obtain ⟨⟨wanted, filled⟩, same⟩ := found
          exact ⟨path, body, rfl, wanted, filled, (Option.some.inj same).symm⟩
  | _ => cases found

/-- Asked so often, a walk answers what comes next, and nothing after its end. -/
theorem next_after (entries : Tar.Entries) (calls : Nat) :
    (next directory (after directory entries calls)).1 = (walk directory entries)[calls]? := by
  induction calls generalizing entries with
  | zero =>
      rw [after]
      cases onward : next directory entries with
      | mk item rest =>
          cases item with
          | none => rw [walk_none onward, List.getElem?_nil]
          | some item => rw [walk_some onward, List.getElem?_cons_zero]
  | succ calls ih =>
      rw [after_succ, ih]
      cases onward : next directory entries with
      | mk item rest =>
          cases item with
          | some item => rw [walk_some onward, List.getElem?_cons_succ]
          | none =>
              -- A walk that answered nothing has nothing left to look at.
              have ended : rest = .done := by
                induction entries with
                | done => cases onward; rfl
                | failed => cases onward
                | unnamed _ => cases onward
                | entry path body tail within =>
                    simp only [next] at onward
                    split at onward
                    · exact within onward
                    · split at onward
                      · cases onward
                      · exact within onward
                      · cases onward
              rw [walk_none onward, ended, walk_done, List.getElem?_nil, List.getElem?_nil]

/-- A call leaves a later part of the sequence, and a shorter one if it hands something out. -/
theorem readings_next (entries : Tar.Entries) :
    (next directory entries).2.readings <:+ entries.readings ∧
      ((next directory entries).1.isSome = true →
        (next directory entries).2.readings.length < entries.readings.length) := by
  have ends {readings : List Tar.Reading} : Tar.Entries.done.readings <:+ readings :=
    List.nil_suffix
  induction entries with
  | done => exact ⟨ends, nofun⟩
  | failed => exact ⟨ends, fun _ => Nat.succ_pos _⟩
  | unnamed rest => exact ⟨ends, fun _ => Nat.succ_pos _⟩
  | entry path body rest ih =>
      have later : (next directory rest).2.readings <:+
            (Tar.Entries.entry path body rest).readings ∧
          ((next directory rest).1.isSome = true → (next directory rest).2.readings.length <
            (Tar.Entries.entry path body rest).readings.length) :=
        ⟨ih.1.trans (List.suffix_cons _ _), fun given => Nat.lt_succ_of_lt (ih.2 given)⟩
      simp only [next]
      split
      · exact later
      · split
        · exact ⟨ends, fun _ => Nat.succ_pos _⟩
        · exact later
        · exact ⟨List.suffix_cons _ _, fun _ => Nat.lt_succ_self _⟩

theorem readings_after (entries : Tar.Entries) (calls : Nat) :
    (after directory entries calls).readings <:+ entries.readings := by
  induction calls with
  | zero => exact List.suffix_rfl
  | succ calls ih => exact (readings_next _).1.trans ih

/-- Whatever a reader delivers, a walk hands out the documents before the first thing that it needs
and that cannot be read, and then one failure if there is such a thing.  Each is the text of a body,
and not empty, and the path of its entry has the directory somewhere in it.  Asked call by call,
the walk answers these in turn and then nothing for ever.  Each call goes on behind what the calls
before it have taken, and takes something if it hands something out.  Where a body that cannot be
read leads to nothing but failure, as in every archive, the failure is that of the sequence. -/
theorem walk_call_by_call (directory : String) (entries : Tar.Entries) :
    (walk directory entries = (textsBefore directory entries.readings).map .ok ++
      if entries.readings.any (stopsAt directory) then [.error .archive] else []) ∧
    (∀ text, .ok text ∈ walk directory entries → text ≠ "" ∧
      ∃ path body, .entry path (some body) ∈ entries.readings ∧
        directory.toList <:+: (Utf8.lossy path).toList ∧ text = Utf8.lossy body) ∧
    (∀ calls, (next directory (after directory entries calls)).1 =
      (walk directory entries)[calls]?) ∧
    (∀ calls, (after directory entries calls).readings <:+ entries.readings ∧
      ((next directory (after directory entries calls)).1.isSome = true →
        (after directory entries (calls + 1)).readings.length <
          (after directory entries calls).readings.length)) ∧
    (entries.Sound → walk directory entries = (documentsOf directory entries.full).map .ok ++
      if entries.isWhole then [] else [.error .archive]) := by
  refine ⟨walk_eq_textsBefore entries, fun text member => ?_, next_after entries,
    fun calls => ⟨readings_after entries calls, (readings_next _).2⟩, walk_eq directory⟩
  rw [walk_eq_textsBefore, List.mem_append, List.mem_map] at member
  rcases member with ⟨_, inside, same⟩ | failure
  · cases same
    obtain ⟨reading, before, found⟩ := List.mem_filterMap.mp inside
    obtain ⟨path, body, rfl, wanted, filled, rfl⟩ := exists_entry_of_textOf? found
    exact ⟨Utf8.lossy_ne_empty filled, path, body, List.takeWhile_subset _ before, wanted, rfl⟩
  · split at failure <;> simp at failure

/-- Two documents, of which one is empty, and an entry elsewhere whose body breaks off. -/
def brokenOff : Tar.Entries :=
  .entry (Utf8.encode "d/1") (some []) (.entry (Utf8.encode "d/2") (some [97, 255])
    (.entry (Utf8.encode "e/3") none .failed))

theorem walk_brokenOff :
    brokenOff.Sound ∧ walk "d" brokenOff = [.ok "a\uFFFD", .error .archive] ∧
      "a\uFFFD" ≠ "" ∧ (next "d" (after "d" brokenOff 7)).1 = none ∧
      (after "d" brokenOff 1).readings.length < brokenOff.readings.length := by
  obtain ⟨-, full, calls, shorter, whole⟩ := walk_call_by_call "d" brokenOff
  have documents : documentsOf "d" brokenOff.full = ["a\uFFFD"] := by decide +kernel
  have walked : walk "d" brokenOff = [.ok "a\uFFFD", .error .archive] := by
    rw [whole rfl, documents]
    rfl
  refine ⟨rfl, walked, (full _ ?_).1, ?_, (shorter 0).2 ?_⟩
  · rw [walked]
    exact List.mem_cons_self
  · rw [calls, walked]
    rfl
  · rw [calls, walked]
    rfl

end Extraction
end JarLedger
