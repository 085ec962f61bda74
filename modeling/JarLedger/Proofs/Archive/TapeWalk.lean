import JarLedger.Proofs.Archive.Calls
import JarLedger.Proofs.Archive.Tape

/-!
# A walk through an archive on a tape

A walk takes a header off the tape, then what the header asks for, and goes on behind it.  One step
leaves to be seen what was to be seen before (`Tape.shows_step`).  So the walk hands out what the
entries of the archive give (`Tape.walkFrom_eq`), and bodies that no one reads are not taken off the
tape before the next header is looked for.
-/

namespace JarLedger

open Tar (Described Entries Header Stretch blockSize entriesFrom roundedUp wordLimit)

namespace Extraction

/-- A walk passes over an entry elsewhere, and ends at a body that cannot be read.  A document is
not empty. -/
theorem walk_entry (directory : String) (path : List UInt8)
    (body : Option (List UInt8)) (rest : Entries) :
    walk directory (.entry path body rest) =
      if isWanted directory path then
        match body with
        | none => [.error .archive]
        | some body => (if body.isEmpty then [] else [.ok (Utf8.lossy body)]) ++ walk directory rest
      else walk directory rest := by
  cases wanted : isWanted directory path with
  | false => exact walk_congr (next_unwanted wanted body rest)
  | true =>
      cases body with
      | none => exact (walk_some (next_wanted_unread wanted rest)).trans (by rw [walk_done]; rfl)
      | some body =>
          have met := next_read directory path body rest
          rw [documentOf?, wanted] at met
          cases body with
          | nil => exact walk_congr met
          | cons first more => exact walk_some met

end Extraction

open Extraction (Item isWanted walk walk_done walk_entry walk_failed)

namespace Tape

/-! ## What is to be seen -/

/-- The bytes from a place on, if the tape reaches it. -/
def onward? (tape : Tape) (place : Nat) : Option (List UInt8) :=
  if place - tape.position ≤ tape.rest.bytes.length then
    some (tape.rest.bytes.drop (place - tape.position))
  else none

/-- What is to be seen of an archive if a header is looked for at a place. -/
def entriesAt (tape : Tape) (described : Described) (place : Nat) : Entries :=
  match tape.onward? place with
  | none => .failed
  | some bytes => entriesFrom tape.rest.ending described place bytes

variable {tape : Tape} {described : Described} {place : Nat}

/-- Reading up to a place changes nothing of what is to be seen there. -/
theorem entriesAt_read {count : Nat} (ahead : tape.position + count ≤ place) :
    (tape.read count).2.entriesAt described place = tape.entriesAt described place := by
  rcases Nat.lt_or_ge tape.rest.bytes.length count with short | enough
  · have never : tape.onward? place = none := if_neg (by omega)
    have neither : (tape.read count).2.onward? place = none := by
      rw [read_of_short short]
      exact if_neg (by simp only [List.length_nil]; omega)
    rw [entriesAt, neither, entriesAt, never]
  · have left : count + (place - (tape.position + count)) = place - tape.position := by omega
    have same : (tape.read count).2.onward? place = tape.onward? place := by
      rw [read_of_enough enough, onward?, onward?, List.length_drop, List.drop_drop, left]
      exact if_congr (by simp only; omega) rfl rfl
    rw [entriesAt, same, read_of_enough enough, entriesAt]

theorem entriesAt_ahead (tape : Tape) (described : Described) (skipped : Nat) :
    tape.entriesAt described (tape.position + skipped) =
      if tape.rest.bytes.length < skipped then .failed
      else entriesFrom tape.rest.ending described (tape.position + skipped)
        (tape.rest.bytes.drop skipped) := by
  rw [entriesAt, onward?, Nat.add_sub_cancel_left]
  rcases Nat.lt_or_ge tape.rest.bytes.length skipped with short | enough
  · rw [if_neg (Nat.not_le.mpr short), if_pos short]
  · rw [if_pos enough, if_neg (Nat.not_lt.mpr enough)]

theorem entriesAt_here (tape : Tape) (described : Described) :
    tape.entriesAt described tape.position =
      entriesFrom tape.rest.ending described tape.position tape.rest.bytes :=
  (tape.entriesAt_ahead described 0).trans (if_neg (Nat.not_lt_zero _))

/-! ## Looking for a header -/

/-- What is met where a header is looked for. -/
inductive Met where
  /-- The archive ends. -/
  | nothing
  /-- There is no header. -/
  | damage
  | header (header : Header)

/-- What a block is that stands where a header is looked for. -/
def Met.ofBlock (block : List UInt8) : Met :=
  if block.isEmpty then .nothing
  else if block.length < blockSize then .damage
  else if Header.isZero ⟨block⟩ then .nothing
  else if Header.isSound ⟨block⟩ then .header ⟨block⟩
  else .damage

/-- A header fills its block. -/
theorem Met.length_of_header {block : Option (List UInt8)} {header : Header}
    (met : (block.map ofBlock).getD .damage = .header header) :
    ∃ bytes, block = some bytes ∧ blockSize ≤ bytes.length := by
  cases block with
  | none => cases met
  | some bytes =>
      refine ⟨bytes, rfl, Nat.not_lt.mp fun short => ?_⟩
      rw [Option.map_some, Option.getD_some, ofBlock] at met
      simp only [short, if_true] at met
      split at met <;> cases met

/-- Look for a header at a place further on. -/
def meet (tape : Tape) (place : Nat) : Met × Tape :=
  match tape.readFull (place - tape.position) with
  | (none, left) => (.damage, left)
  | (some _, left) =>
      (((left.read blockSize).1.map Met.ofBlock).getD .damage, (left.read blockSize).2)

/-- What one step of a reader finds. -/
inductive Step where
  /-- The archive ends. -/
  | over
  /-- The archive cannot be read on. -/
  | refused
  /-- What describes the entry at a place further on. -/
  | onward (described : Described) (place : Nat)
  /-- An entry, and where the next header is looked for. -/
  | entry (path : List UInt8) (stretches : List Stretch) (place : Nat)

/-- Whether a reader goes on after a step. -/
def Step.goesOn : Step → Bool
  | .over | .refused => false
  | .onward .. | .entry .. => true

/-- Read what describes the entry at a place further on. -/
def readDescription (tape : Tape) (described : Described) (place : Nat) (kind : Char)
    (size : Nat) : Step × Tape :=
  let (body, left) := tape.read size
  match body.bind (described.extend? kind) with
  | none => (.refused, left)
  | some described => (.onward described place, left)

/-- Read what is to be known of an entry before its body. -/
def readEntry (tape : Tape) (path : List UInt8) (header : Header) (size : Nat) : Step × Tape :=
  match tape.readStretches header size with
  | (none, left) => (.refused, left)
  | (some stretches, left) => (.entry path stretches (left.position + roundedUp size), left)

/-- Read what a header asks for. -/
def heed (tape : Tape) (described : Described) (place : Nat) (header : Header) : Step × Tape :=
  match described.size? header with
  | none => (.refused, tape)
  | some size =>
      if wordLimit ≤ size + (blockSize - 1) ∨ wordLimit ≤ place + blockSize + roundedUp size then
        (.refused, tape)
      else if header.describes then
        tape.readDescription described (place + blockSize + roundedUp size) header.kind size
      else tape.readEntry (described.path header) header size

/-- One step of a reader. -/
def step (tape : Tape) (described : Described) (place : Nat) : Step × Tape :=
  match tape.meet place with
  | (.nothing, left) => (if described.any then .refused else .over, left)
  | (.damage, left) => (.refused, left)
  | (.header header, left) => left.heed described place header

theorem onto_meet (tape : Tape) (place : Nat) : tape.Onto (tape.meet place).2 := by
  rw [meet]
  split
  · next left missed => exact ⟨_, (congrArg Prod.snd missed).symm⟩
  · next left skipped => exact .trans ⟨_, (congrArg Prod.snd skipped).symm⟩ ⟨_, rfl⟩

theorem onto_heed (tape : Tape) (described : Described) (place : Nat) (header : Header) :
    tape.Onto (tape.heed described place header).2 := by
  rw [heed]
  split
  · exact .refl tape
  · next size _ =>
    split
    · exact .refl tape
    · split
      · rw [readDescription]
        dsimp only
        split <;> exact ⟨size, rfl⟩
      · rw [readEntry]
        have onto := (readStretches_follows header size tape).onto
        split <;> next read => exact (congrArg Prod.snd read) ▸ onto

theorem onto_step (tape : Tape) (described : Described) (place : Nat) :
    (tape.meet place).2.Onto (tape.step described place).2 := by
  rw [step]
  split <;> next met => rw [met]; first | exact .refl _ | exact onto_heed _ described place _

/-- Where a header is met, its bytes are taken. -/
theorem length_meet_lt {header : Header} (met : (tape.meet place).1 = .header header) :
    (tape.meet place).2.rest.bytes.length < tape.rest.bytes.length := by
  cases skipped : tape.readFull (place - tape.position) with
  | mk passed left =>
      have onto : tape.Onto left := ⟨_, (congrArg Prod.snd skipped).symm⟩
      rw [meet, skipped] at met ⊢
      cases passed with
      | none => cases met
      | some _ =>
          obtain ⟨block, found, filled⟩ := Met.length_of_header met
          rw [← take_of_read found, List.length_take] at filled
          have taken : (left.read blockSize).2.rest.bytes.length =
            left.rest.bytes.length - blockSize := List.length_drop
          have positive : 0 < blockSize := by decide
          have passed := onto.length_le
          dsimp only
          omega

theorem meet_of_enough (enough : place - tape.position ≤ tape.rest.bytes.length) :
    tape.meet place =
      let block := (tape.read (place - tape.position)).2.read blockSize
      ((block.1.map Met.ofBlock).getD .damage, block.2) := by
  rw [meet, readFull_of_enough enough]

theorem meet_here (tape : Tape) :
    tape.meet tape.position =
      (((tape.read blockSize).1.map Met.ofBlock).getD .damage, (tape.read blockSize).2) := by
  rw [meet_of_enough (by simp), Nat.sub_self, read_zero]

/-- After a step is to be seen, behind what it found, what was to be seen before. -/
def Step.Shows (seen : Entries) : Step × Tape → Prop
  | (.over, _) => seen = .done
  | (.refused, _) => seen = .failed
  | (.onward described place, left) => left.position ≤ place ∧ seen = left.entriesAt described place
  | (.entry path stretches place, left) =>
      left.position + Tar.storedLength stretches ≤ place ∧
        seen = .entry path (left.readBody stretches).1 (left.entriesAt {} place)

theorem shows_readDescription (tape : Tape) (described : Described) (kind : Char) (size : Nat) :
    Step.Shows
      (if tape.rest.bytes.length < roundedUp size then .failed
        else
          match described.extend? kind (tape.rest.bytes.take size) with
          | none => .failed
          | some described =>
              entriesFrom tape.rest.ending described (tape.position + roundedUp size)
                (tape.rest.bytes.drop (roundedUp size)))
      (tape.readDescription described (tape.position + roundedUp size) kind size) := by
  have within := Tar.le_roundedUp size
  rw [readDescription]
  dsimp only
  cases taken : (tape.read size).1 with
  | none =>
      have short := length_lt_of_read taken
      rw [if_pos (Nat.lt_of_lt_of_le short within)]
      rfl
  | some body =>
      rw [take_of_read taken, Option.bind_some]
      cases described.extend? kind body with
      | none => exact ite_self _
      | some described =>
          have ahead := Nat.add_le_add_left within tape.position
          refine ⟨Nat.le_trans (position_read_le tape size) ahead, ?_⟩
          rw [entriesAt_read ahead, entriesAt_ahead]

theorem shows_readEntry_none (tape : Tape) (path : List UInt8) {header : Header} {size : Nat}
    (refused : Tar.stretches? header size tape.rest.bytes = none) :
    Step.Shows .failed (tape.readEntry path header size) := by
  obtain ⟨_, -, same, -⟩ := readStretches_follows header size tape
  have missed : tape.readStretches header size = (none, (tape.readStretches header size).2) :=
    Prod.ext (same.trans (by rw [refused]; rfl)) rfl
  rw [readEntry, missed]
  rfl

/-- The tape behind a header that stands at a place. -/
abbrev behindHeader (ending : Ending) (place : Nat) (bytes : List UInt8) : Tape :=
  ⟨⟨bytes.drop blockSize, ending⟩, place + blockSize⟩

section Header

variable {bytes : List UInt8} {header : Header} (ending : Ending)

theorem shows_readEntry {data : List UInt8} {size : Nat} {stretches : List Stretch}
    (heading : Tar.Heading described place bytes header size stretches data) :
    Step.Shows (entriesFrom ending described place bytes)
      ((behindHeader ending place bytes).readEntry (described.path header) header size) := by
  have laidOut := heading.laidOut
  have enough := heading.enough
  have stored := (Tar.lengths_of_stretches? laidOut).1
  obtain ⟨count, left, same, there⟩ :=
    readStretches_follows header size (behindHeader ending place bytes)
  rw [laidOut] at same there
  obtain ⟨further, behind⟩ := there _ rfl
  obtain rfl : data = (bytes.drop blockSize).drop count := behind
  have known : (behindHeader ending place bytes).readStretches header size =
      (some stretches, ⟨⟨(bytes.drop blockSize).drop count, ending⟩, place + blockSize + count⟩) :=
    Prod.ext same (left.trans (congrArg Prod.snd (read_of_enough further)))
  have used : bytes.length - ((bytes.drop blockSize).drop count).length = blockSize + count := by
    simp only [List.length_drop] at further ⊢
    omega
  rw [readEntry, known, Tar.entriesFrom_of_heading heading, used]
  refine ⟨Nat.add_le_add_left (stored ▸ Tar.le_roundedUp size) _, ?_⟩
  rw [readBody_eq, map_read, stored, entriesAt_ahead, ← Nat.add_assoc place, List.drop_drop,
    List.drop_drop]

/-- What a header asks for leaves the rest to be seen. -/
theorem shows_heed (described : Described) (place : Nat) (enough : blockSize ≤ bytes.length)
    (begins : ⟨bytes.take blockSize⟩ = header) (filled : ¬ header.isZero) (sound : header.isSound) :
    Step.Shows (entriesFrom ending described place bytes)
      ((behindHeader ending place bytes).heed described place header) := by
  have there := Tar.isEmpty_of_block enough
  cases sized : described.size? header with
  | none =>
      rw [heed, entriesFrom]
      simp only [there, enough, begins, filled, sound, sized, Bool.not_true, Bool.false_eq_true,
        if_false, dif_pos]
      rfl
  | some size =>
      by_cases far : wordLimit ≤ size + (blockSize - 1) ∨
          wordLimit ≤ place + blockSize + roundedUp size
      · rw [heed, entriesFrom]
        simp only [there, enough, begins, filled, sound, sized, far, Bool.not_true,
          Bool.false_eq_true, if_false, if_true, dif_pos]
        rfl
      by_cases describes : header.describes
      · rw [heed, entriesFrom]
        simp only [there, enough, begins, filled, sound, sized, far, describes, Bool.not_true,
          Bool.false_eq_true, if_false, if_true, dif_pos, ← List.drop_drop]
        exact shows_readDescription (behindHeader ending place bytes) described header.kind size
      · rw [heed]
        simp only [sized, far, describes, if_false, Bool.false_eq_true]
        cases laidOut : Tar.stretches? header size (bytes.drop blockSize) with
        | none =>
            rw [entriesFrom]
            simp only [there, enough, begins, filled, sound, sized, far, describes, Bool.not_true,
              Bool.false_eq_true, if_false, dif_pos]
            split
            · exact shows_readEntry_none (behindHeader ending place bytes) _ laidOut
            · next found =>
              rw [begins, laidOut] at found
              cases found
        | some found =>
            exact shows_readEntry ending
              ⟨enough, begins, filled, sound, sized, far, describes, laidOut⟩

end Header

theorem shows_here (tape : Tape) (described : Described) :
    Step.Shows (entriesFrom tape.rest.ending described tape.position tape.rest.bytes)
      (tape.step described tape.position) := by
  rw [step, meet_here]
  rcases Nat.lt_or_ge tape.rest.bytes.length blockSize with short | enough
  · have noBlock := Nat.not_le.mpr short
    rw [read_of_short short, entriesFrom]
    by_cases whole : tape.rest.ending = .whole
    · by_cases empty : tape.rest.bytes = []
      · simp only [empty, whole, List.isEmpty_nil, if_true, Option.map_some, Option.getD_some,
          Met.ofBlock]
        split <;> rfl
      · simp [whole, empty, Met.ofBlock, short, noBlock, Step.Shows]
    · by_cases empty : tape.rest.bytes = [] <;> simp [whole, empty, noBlock, Step.Shows]
  · have filled : (tape.rest.bytes.take blockSize).length = blockSize :=
      List.length_take_of_le enough
    have there := Tar.isEmpty_of_block (Nat.le_of_eq filled.symm)
    rw [read_of_enough enough]
    simp only [Option.map_some, Option.getD_some, Met.ofBlock, there, filled, Nat.lt_irrefl,
      Bool.false_eq_true, if_false]
    by_cases zero : Header.isZero ⟨tape.rest.bytes.take blockSize⟩
    · rw [entriesFrom]
      simp only [Tar.isEmpty_of_block enough, enough, zero, Bool.false_eq_true, if_false, if_true,
        dif_pos]
      split <;> rfl
    by_cases sound : Header.isSound ⟨tape.rest.bytes.take blockSize⟩
    · simp only [zero, sound, Bool.false_eq_true, if_false, if_true]
      exact shows_heed _ described _ enough rfl zero sound
    · rw [entriesFrom]
      simp only [Tar.isEmpty_of_block enough, enough, zero, sound, Bool.not_false,
        Bool.false_eq_true, if_false, if_true, dif_pos]
      rfl

/-- A step leaves to be seen what was to be seen before. -/
theorem shows_step (described : Described) (before : tape.position ≤ place) :
    Step.Shows (tape.entriesAt described place) (tape.step described place) := by
  rcases Nat.lt_or_ge tape.rest.bytes.length (place - tape.position) with short | enough
  · have never : tape.onward? place = none := if_neg (Nat.not_le.mpr short)
    rw [step, meet, readFull_of_short short, entriesAt, never]
    rfl
  · -- To skip is to read, and what is read up to the place is not to be seen from there.
    have there : (tape.read (place - tape.position)).2.position = place := by
      rw [read_of_enough enough]
      exact Nat.add_sub_of_le before
    have same : tape.meet place = (tape.read (place - tape.position)).2.meet place := by
      have here := meet_here (tape.read (place - tape.position)).2
      rw [there] at here
      rw [here, meet_of_enough enough]
    rw [← entriesAt_read (Nat.le_of_eq (Nat.add_sub_of_le before)), step, same, ← step]
    have shows := shows_here (tape.read (place - tape.position)).2 described
    rwa [← entriesAt_here, there] at shows

/-! ## The walk -/

/-- Where a step goes on, it has taken bytes. -/
theorem length_step_lt {found : Step} {left : Tape}
    (stepped : tape.step described place = (found, left)) (goesOn : found.goesOn) :
    left.rest.bytes.length < tape.rest.bytes.length := by
  rw [step] at stepped
  split at stepped
  · next met =>
    cases stepped
    split at goesOn <;> cases goesOn
  · next met =>
    cases stepped
    cases goesOn
  · next header behind met =>
    have onto := onto_heed behind described place header
    have taken := length_meet_lt (congrArg Prod.fst met)
    rw [stepped] at onto
    rw [met] at taken
    exact Nat.lt_of_le_of_lt onto.length_le taken

theorem onto_readBody {left : Tape} {stretches : List Stretch} {body : Option (List UInt8)}
    (read : tape.readBody stretches = (body, left)) : tape.Onto left :=
  ⟨_, by rw [← readBody_snd, read]⟩

/-- Walk on from a place of an archive: what is handed out, and the tape after it. -/
def walkFrom (directory : String) (tape : Tape) (described : Described) (place : Nat) :
    List Item × Tape :=
  match _found : tape.step described place with
  | (.over, left) => ([], left)
  | (.refused, left) => ([.error .archive], left)
  | (.onward described place, left) => walkFrom directory left described place
  | (.entry path stretches place, left) =>
      if isWanted directory path then
        match _read : left.readBody stretches with
        | (none, left) => ([.error .archive], left)
        | (some body, left) =>
            let (later, left) := walkFrom directory left {} place
            ((if body.isEmpty then [] else [.ok (Utf8.lossy body)]) ++ later, left)
      else walkFrom directory left {} place
termination_by tape.rest.bytes.length
decreasing_by
  · exact length_step_lt _found rfl
  · exact Nat.lt_of_le_of_lt (onto_readBody _read).length_le (length_step_lt _found rfl)
  · exact length_step_lt _found rfl

/-- A walk takes a block at least where it starts, or what there is of it. -/
theorem onto_walkFrom (directory : String) (tape : Tape) (described : Described) (place : Nat) :
    (tape.meet place).2.Onto (tape.walkFrom directory described place).2 := by
  have stepped {tape left : Tape} {described : Described} {place : Nat} {found : Step}
      (stepped : tape.step described place = (found, left)) : (tape.meet place).2.Onto left := by
    have onto := onto_step tape described place
    rwa [stepped] at onto
  have further {tape after : Tape} {place : Nat} (onto : (tape.meet place).2.Onto after) :
      tape.Onto after := (onto_meet tape place).trans onto
  fun_induction walkFrom directory tape described place with
  | case1 tape described place left found => exact stepped found
  | case2 tape described place left found => exact stepped found
  | case3 tape described place next following left found ih =>
      exact (stepped found).trans (further ih)
  | case4 tape described place path stretches following left found wanted left' read =>
      exact (stepped found).trans (onto_readBody read)
  | case5 tape described place path stretches following left found wanted body left' read later
      after same ih =>
      rw [same] at ih
      exact ((stepped found).trans (onto_readBody read)).trans (further ih)
  | case6 tape described place path stretches following left found unwanted ih =>
      exact (stepped found).trans (further ih)

/-- On the tape a walk hands out what the entries of the archive give. -/
theorem walkFrom_eq (directory : String) (tape : Tape) (described : Described) (place : Nat)
    (before : tape.position ≤ place) :
    (tape.walkFrom directory described place).1 =
      walk directory (tape.entriesAt described place) := by
  have shown {tape left : Tape} {described : Described} {place : Nat} {found : Step}
      (stepped : tape.step described place = (found, left)) (before : tape.position ≤ place) :
      Step.Shows (tape.entriesAt described place) (found, left) :=
    stepped ▸ shows_step described before
  -- By steps: no step leads to a place that the tape has passed, so `before` holds again after it.
  fun_induction walkFrom directory tape described place with
  | case1 tape described place left found =>
      have seen : tape.entriesAt described place = .done := shown found before
      rw [seen, walk_done]
  | case2 tape described place left found =>
      have seen : tape.entriesAt described place = .failed := shown found before
      rw [seen, walk_failed]
  | case3 tape described place next following left found ih =>
      obtain ⟨ahead, seen⟩ := shown found before
      rw [seen, ih ahead]
  | case4 tape described place path stretches following left found wanted left' read =>
      obtain ⟨-, seen⟩ := shown found before
      rw [seen, walk_entry, if_pos wanted, read]
  | case5 tape described place path stretches following left found wanted body left' read later
      after same ih =>
      obtain ⟨ahead, seen⟩ := shown found before
      have behind : left' = (left.read (Tar.storedLength stretches)).2 := by
        rw [← readBody_snd, read]
      rw [seen, walk_entry, if_pos wanted, read, ← entriesAt_read ahead, ← behind, ← ih, same]
      exact behind ▸ Nat.le_trans (position_read_le _ _) ahead
  | case6 tape described place path stretches following left found elsewhere ih =>
      obtain ⟨ahead, seen⟩ := shown found before
      rw [seen, walk_entry, if_neg elsewhere, ih (Nat.le_trans (Nat.le_add_right _ _) ahead)]

end Tape
end JarLedger
