import JarLedger.Proofs.Archive.Headers

/-!
# Reading the parts of an archive off a tape

Unpacked bytes are read one after the other, and the tape knows how many it has given.  Reading
twice is reading as much at once (`Tape.read_add`).  So the body of an entry, which is read stretch
by stretch, is taken off like any bytes (`Tape.readBody_eq`), and what a header says of its
stretches is read as it is made of the bytes that are left (`Tape.readStretches_follows`).
-/

namespace JarLedger

open Tar (blockSize Header Stretch)
open Tar.Sparse (Layout)

/-- How bytes end for a reader that has met their end. -/
def Ending.reported : Ending → Ending
  | .whole | .refused => .whole
  | .broken => .broken

@[simp]
theorem Ending.reported_reported (ending : Ending) :
    ending.reported.reported = ending.reported := by
  cases ending <;> rfl

/-- Unpacked bytes that are read one after the other. -/
structure Tape where
  /-- What is not read yet. -/
  rest : Unpacked
  /-- How many bytes are read. -/
  position : Nat := 0

namespace Tape

/-! ## Bytes -/

/-- Read so many bytes, or as many as there are.  A fault that ends them is met by a reader that
asks for more. -/
def read (tape : Tape) (count : Nat) : Option (List UInt8) × Tape :=
  let taken := tape.rest.bytes.take count
  let isShort : Bool := taken.length < count
  (if isShort ∧ tape.rest.ending ≠ .whole then none else some taken,
    { rest.bytes := tape.rest.bytes.drop count
      rest.ending := if isShort then tape.rest.ending.reported else tape.rest.ending
      position := tape.position + taken.length })

/-- Read so many bytes and no fewer. -/
def readFull (tape : Tape) (count : Nat) : Option (List UInt8) × Tape :=
  ((tape.read count).1.filter fun taken => taken.length = count, (tape.read count).2)

section Read

variable {tape : Tape} {count : Nat} {taken : List UInt8}

theorem read_of_enough (enough : count ≤ tape.rest.bytes.length) :
    tape.read count = (some (tape.rest.bytes.take count),
      ⟨⟨tape.rest.bytes.drop count, tape.rest.ending⟩, tape.position + count⟩) := by
  simp [read, Nat.min_eq_left enough]

theorem read_of_short (short : tape.rest.bytes.length < count) :
    tape.read count = (if tape.rest.ending = .whole then some tape.rest.bytes else none,
      ⟨⟨[], tape.rest.ending.reported⟩, tape.position + tape.rest.bytes.length⟩) := by
  simp [read, List.take_of_length_le (Nat.le_of_lt short), short,
    List.drop_of_length_le (Nat.le_of_lt short)]

theorem read_zero (tape : Tape) : tape.read 0 = (some [], tape) :=
  read_of_enough (Nat.zero_le _)

/-- Which bytes are read, if no fault is met. -/
theorem read_fst (tape : Tape) (count : Nat) :
    (tape.read count).1 =
      if tape.rest.bytes.length < count ∧ tape.rest.ending ≠ .whole then none
      else some (tape.rest.bytes.take count) := by
  rcases Nat.lt_or_ge tape.rest.bytes.length count with short | enough
  · rw [read_of_short short, List.take_of_length_le (Nat.le_of_lt short)]
    by_cases whole : tape.rest.ending = .whole <;> simp [short, whole]
  · rw [read_of_enough enough, if_neg fun missed => Nat.not_lt.mpr enough missed.1]

theorem map_read {result : Type} (value : result) :
    (tape.read count).1.map (fun _ => value) =
      if tape.rest.bytes.length < count ∧ tape.rest.ending ≠ .whole then none else some value := by
  rw [read_fst]
  split <;> rfl

theorem readFull_fst (tape : Tape) (count : Nat) :
    (tape.readFull count).1 =
      if count ≤ tape.rest.bytes.length then some (tape.rest.bytes.take count) else none := by
  rw [readFull]
  rcases Nat.lt_or_ge tape.rest.bytes.length count with short | enough
  · rw [if_neg (Nat.not_le.mpr short), read_of_short short]
    by_cases whole : tape.rest.ending = .whole <;> simp [whole, Nat.ne_of_lt short]
  · simp [read_of_enough enough, enough]

theorem readFull_of_enough (enough : count ≤ tape.rest.bytes.length) :
    tape.readFull count = (some (tape.rest.bytes.take count), (tape.read count).2) :=
  Prod.ext ((readFull_fst tape count).trans (if_pos enough)) rfl

theorem readFull_of_short (short : tape.rest.bytes.length < count) :
    tape.readFull count = (none, (tape.read count).2) :=
  Prod.ext ((readFull_fst tape count).trans (if_neg (Nat.not_le.mpr short))) rfl

theorem readFull_eq_some_iff :
    (tape.readFull count).1 = some taken ↔
      count ≤ tape.rest.bytes.length ∧ tape.rest.bytes.take count = taken := by
  rw [readFull_fst, Option.ite_none_right_eq_some, Option.some.injEq]

theorem readFull_eq_none_iff :
    (tape.readFull count).1 = none ↔ tape.rest.bytes.length < count := by
  simp [readFull_fst]

/-- Reading twice leaves the tape as reading as much at once does. -/
theorem read_add (tape : Tape) (first second : Nat) :
    (tape.read (first + second)).2 = ((tape.read first).2.read second).2 := by
  rcases Nat.lt_or_ge tape.rest.bytes.length first with short | enough
  · rw [read_of_short (Nat.lt_add_right second short), read_of_short short]
    cases second with
    | zero => rw [read_zero]
    | succ more => rw [read_of_short (Nat.succ_pos more), Ending.reported_reported]; rfl
  · rw [read_of_enough enough]
    rcases Nat.lt_or_ge tape.rest.bytes.length (first + second) with short | enough
    · rw [read_of_short short, read_of_short (by simp only [List.length_drop]; omega)]
      simp only [List.length_drop, Tape.mk.injEq, true_and]
      omega
    · rw [read_of_enough enough, read_of_enough (by simp only [List.length_drop]; omega),
        List.drop_drop, Nat.add_assoc]

theorem take_of_read (found : (tape.read count).1 = some taken) :
    tape.rest.bytes.take count = taken := by
  rw [read_fst, Option.ite_none_left_eq_some] at found
  exact Option.some.inj found.2

theorem length_lt_of_read (missed : (tape.read count).1 = none) :
    tape.rest.bytes.length < count := by
  by_contra enough
  rw [read_of_enough (Nat.not_lt.mp enough)] at missed
  cases missed

/-- A fault stays what is read if more is asked for. -/
theorem read_add_of_none {first : Nat} (second : Nat) (missed : (tape.read first).1 = none) :
    tape.read (first + second) = tape.read first := by
  have short := length_lt_of_read missed
  rw [read_of_short short, read_of_short (Nat.lt_add_right second short)]

/-- What is read in two parts is read as a whole. -/
theorem read_add_of_some {first : Nat} (second : Nat) (found : (tape.read first).1 = some taken) :
    (tape.read (first + second)).1 = ((tape.read first).2.read second).1.map (taken ++ ·) := by
  obtain rfl := take_of_read found
  rcases Nat.lt_or_ge tape.rest.bytes.length first with short | enough
  · -- No fault is met, so the end of the bytes is a good one.
    rw [read_of_short short] at found ⊢
    obtain ⟨whole, -⟩ := Option.ite_none_right_eq_some.mp found
    rw [read_fst, read_fst, whole]
    simp [Ending.reported, List.take_of_length_le (Nat.le_of_lt short),
      List.take_of_length_le (Nat.le_of_lt (Nat.lt_add_right second short))]
  · have further : tape.rest.bytes.length - first < second ↔
        tape.rest.bytes.length < first + second := by omega
    rw [read_of_enough enough, read_fst, read_fst]
    simp only [List.length_drop, List.take_add, further]
    split <;> rfl

theorem position_read_le (tape : Tape) (count : Nat) :
    (tape.read count).2.position ≤ tape.position + count :=
  Nat.add_le_add_left (List.length_take_le _ _) _

/-- Bytes that are there in full make the rest shorter. -/
theorem length_readFull_lt {block : List UInt8} (positive : 0 < count)
    (found : (tape.readFull count).1 = some block) :
    (tape.readFull count).2.rest.bytes.length < tape.rest.bytes.length := by
  obtain ⟨enough, -⟩ := readFull_eq_some_iff.mp found
  rw [readFull, read_of_enough enough, List.length_drop]
  exact Nat.sub_lt (Nat.lt_of_lt_of_le positive enough) positive

end Read

/-- A tape after some reading. -/
def Onto (tape after : Tape) : Prop := ∃ count, after = (tape.read count).2

namespace Onto

variable {tape between after : Tape}

theorem refl (tape : Tape) : tape.Onto tape := ⟨0, by rw [read_zero]⟩

theorem trans (first : tape.Onto between) (second : between.Onto after) : tape.Onto after := by
  obtain ⟨before, rfl⟩ := first
  obtain ⟨count, rfl⟩ := second
  exact ⟨before + count, (tape.read_add before count).symm⟩

theorem position_le (onto : tape.Onto after) : tape.position ≤ after.position := by
  obtain ⟨count, rfl⟩ := onto
  exact Nat.le_add_right _ _

theorem length_le (onto : tape.Onto after) :
    after.rest.bytes.length ≤ tape.rest.bytes.length := by
  obtain ⟨count, rfl⟩ := onto
  simp [read]

end Onto

/-! ## The stretches of an entry -/

/-- What is read off a tape is what is made of the bytes that are left on it. -/
def Follows {result : Type} (tape : Tape) (attempt : Option result × Tape)
    (made : Option (result × List UInt8)) : Prop :=
  ∃ count, attempt.2 = (tape.read count).2 ∧ attempt.1 = made.map Prod.fst ∧
    ∀ found ∈ made, count ≤ tape.rest.bytes.length ∧ found.2 = tape.rest.bytes.drop count

namespace Follows

variable {result : Type} {tape : Tape} {attempt : Option result × Tape}
  {made : Option (result × List UInt8)}

theorem onto (follows : tape.Follows attempt made) : tape.Onto attempt.2 :=
  follows.imp fun _ read => read.1

theorem of_none {after : Tape} (onto : tape.Onto after) :
    tape.Follows (none, after) (none : Option (result × List UInt8)) :=
  onto.imp fun _ read => ⟨read, rfl, nofun⟩

theorem of_some {count : Nat} (value : result) (enough : count ≤ tape.rest.bytes.length) :
    tape.Follows (some value, (tape.read count).2)
      (some (value, tape.rest.bytes.drop count)) :=
  ⟨count, rfl, rfl, fun _ found => by cases found; exact ⟨enough, rfl⟩⟩

theorem unread (value : result) :
    tape.Follows (some value, tape) (some (value, tape.rest.bytes)) := by
  simpa only [read_zero, List.drop_zero] using of_some value (Nat.zero_le tape.rest.bytes.length)

theorem after {count : Nat} (enough : count ≤ tape.rest.bytes.length)
    (follows : (tape.read count).2.Follows attempt made) : tape.Follows attempt made := by
  obtain ⟨further, left, same, there⟩ := follows
  refine ⟨count + further, by rw [left, read_add], same, fun found member => ?_⟩
  obtain ⟨more, rest⟩ := there found member
  simp only [read_of_enough enough, List.length_drop, List.drop_drop] at more rest
  exact ⟨by omega, rest⟩

end Follows

/-- Read the blocks that go on with the map of a file with holes, and count them. -/
def readMap (size : Nat) (layout : Layout) (tape : Tape) : Option Layout × Tape :=
  match _found : (tape.readFull blockSize).1 with
  | none => (none, (tape.readFull blockSize).2)
  | some block =>
      match (Tar.Sparse.items 21 block).foldlM (Tar.Sparse.add? size) layout with
      | none => (none, (tape.readFull blockSize).2)
      | some layout =>
          if (block.drop 504).head? = some 1 then
            readMap size layout (tape.readFull blockSize).2
          else (some layout, (tape.readFull blockSize).2)
termination_by tape.rest.bytes.length
decreasing_by exact length_readFull_lt (by decide) _found

/-- Read the whole map, of which the first items stand in the header. -/
def readLayout (header : Header) (size : Nat) (tape : Tape) : Option Layout × Tape :=
  match (Tar.Sparse.items 4 (header.field 386 96)).foldlM (Tar.Sparse.add? size) ⟨[], 0, size⟩ with
  | none => (none, tape)
  | some layout =>
      if (header.field 482 1).head? = some 1 then readMap size layout tape else (some layout, tape)

/-- Read what is still to be known of the stretches of an entry. -/
def readStretches (header : Header) (size : Nat) (tape : Tape) : Option (List Stretch) × Tape :=
  if header.kind = 'S' then
    let (layout, left) := tape.readLayout header size
    (layout.bind fun layout =>
      if header.isGnu ∧ Tar.octal? (header.field 483 12) = some layout.reached ∧
          layout.remaining = 0 then some layout.stretches.reverse
      else none, left)
  else (some [.data size], tape)

/-- Items of a map do not reach out of their block. -/
theorem items_take (block : List UInt8) :
    Tar.Sparse.items 21 (block.take blockSize) = Tar.Sparse.items 21 block := by
  refine List.map_congr_left fun place inside => ?_
  have within : place < 21 := List.mem_range.mp inside
  simp only [List.drop_take, List.take_take, blockSize]
  congr 2 <;> omega

theorem readMap_follows (size : Nat) (layout : Layout) (tape : Tape) :
    tape.Follows (tape.readMap size layout)
      (Tar.Sparse.readMore? size layout tape.rest.bytes) := by
  have marked (bytes : List UInt8) :
      ((bytes.take blockSize).drop 504).head? = (bytes.drop 504).head? := by
    rw [List.head?_drop, List.getElem?_take_of_lt (by decide), List.head?_drop]
  fun_induction readMap size layout tape with
  | case1 layout tape missed =>
      rw [Tar.Sparse.readMore?, dif_neg (Nat.not_le.mpr (readFull_eq_none_iff.mp missed))]
      exact .of_none ⟨_, rfl⟩
  | case2 layout tape block found refused =>
      obtain ⟨enough, rfl⟩ := readFull_eq_some_iff.mp found
      rw [items_take] at refused
      rw [Tar.Sparse.readMore?, dif_pos enough, refused]
      exact .of_none ⟨_, rfl⟩
  | case3 layout tape block found next added more ih =>
      obtain ⟨enough, rfl⟩ := readFull_eq_some_iff.mp found
      rw [items_take] at added
      rw [marked] at more
      rw [Tar.Sparse.readMore?, dif_pos enough, added]
      simp only [more, if_true]
      exact ih.after enough
  | case4 layout tape block found next added last =>
      obtain ⟨enough, rfl⟩ := readFull_eq_some_iff.mp found
      rw [items_take] at added
      rw [marked] at last
      rw [Tar.Sparse.readMore?, dif_pos enough, added]
      simp only [last, if_false]
      exact .of_some next enough

theorem readLayout_follows (header : Header) (size : Nat) (tape : Tape) :
    tape.Follows (tape.readLayout header size)
      (Tar.Sparse.layout? header size tape.rest.bytes) := by
  rw [readLayout, Tar.Sparse.layout?]
  cases (Tar.Sparse.items 4 (header.field 386 96)).foldlM (Tar.Sparse.add? size) ⟨[], 0, size⟩ with
  | none => exact .of_none (.refl tape)
  | some layout =>
      dsimp only
      split
      · exact readMap_follows size layout tape
      · exact .unread layout

theorem readStretches_follows (header : Header) (size : Nat) (tape : Tape) :
    tape.Follows (tape.readStretches header size)
      (Tar.stretches? header size tape.rest.bytes) := by
  rw [readStretches, Tar.stretches?, Tar.Sparse.read?]
  split
  · obtain ⟨count, left, same, there⟩ := readLayout_follows header size tape
    cases known : Tar.Sparse.layout? header size tape.rest.bytes with
    | none => exact ⟨count, left, by simp [same, known], by simp⟩
    | some found =>
        dsimp only
        split
        · next fitting =>
          refine ⟨count, left, by simp [same, known, fitting], fun read member => ?_⟩
          cases member
          exact there found known
        · next short => exact ⟨count, left, by simpa [same, known] using short, by simp⟩
  · exact .unread _

/-! ## The body of an entry -/

/-- Read a body stretch by stretch. -/
def readBody : List Stretch → Tape → Option (List UInt8) × Tape
  | [], tape => (some [], tape)
  | .hole length :: rest, tape =>
      let (body, left) := readBody rest tape
      (body.map (List.replicate length 0 ++ ·), left)
  | .data length :: rest, tape =>
      match tape.read length with
      | (none, left) => (none, left)
      | (some taken, left) =>
          let (body, left) := readBody rest left
          (body.map (taken ++ ·), left)

/-- A body takes off the tape as many bytes as are stored for it, and is what they fill. -/
theorem readBody_eq (stretches : List Stretch) (tape : Tape) :
    tape.readBody stretches =
      ((tape.read (Tar.storedLength stretches)).1.map fun _ =>
          Tar.fill stretches tape.rest.bytes,
        (tape.read (Tar.storedLength stretches)).2) := by
  induction stretches generalizing tape with
  | nil =>
      rw [readBody, show Tar.storedLength [] = 0 from rfl, read_zero]
      rfl
  | cons stretch rest ih =>
      cases stretch with
      | hole length =>
          rw [Tar.storedLength_cons, Tar.Stretch.stored, Nat.zero_add, readBody, ih]
          simp only [Option.map_map]
          rfl
      | data length =>
          rw [Tar.storedLength_cons, Tar.Stretch.stored, readBody]
          split
          · next left missed =>
            rw [read_add_of_none _ (congrArg Prod.fst missed), missed]
            rfl
          · next taken left found =>
            have first : (tape.read length).1 = some taken := congrArg Prod.fst found
            have bytes : left.rest.bytes = tape.rest.bytes.drop length :=
              congrArg (fun read => read.2.rest.bytes) found.symm
            rw [ih, read_add, read_add_of_some _ first, found, Tar.fill, take_of_read first,
              ← bytes]
            simp only [Option.map_map]
            rfl

theorem readBody_snd (stretches : List Stretch) (tape : Tape) :
    (tape.readBody stretches).2 = (tape.read (Tar.storedLength stretches)).2 := by
  rw [readBody_eq]

end Tape
end JarLedger
