import JarLedger.Tar.Entries
import Mathlib.Algebra.BigOperators.Group.List.Basic
import Mathlib.Algebra.GroupWithZero.Nat

/-!
# What a header declares

The stretches that a header leads to make up a file of the length that it declares, and store as
many bytes as it says (`Tar.lengths_of_stretches?`).  The body is shorter than that by as many
stored bytes as are not there (`Tar.length_fill`).  A `Tar.Heading` is all that a reader asks of a
header before it hands out the entry (`Tar.entriesFrom_of_heading`).
-/

namespace JarLedger
namespace Tar

/-- How long a stretch of a file is. -/
def Stretch.length : Stretch → Nat
  | .hole length | .data length => length

/-- How much of a stretch is stored. -/
def Stretch.stored : Stretch → Nat
  | .hole _ => 0
  | .data length => length

/-- Length of the file that stretches make up. -/
def fileLength (stretches : List Stretch) : Nat := (stretches.map Stretch.length).sum

/-- How many bytes are stored for stretches. -/
def storedLength (stretches : List Stretch) : Nat := (stretches.map Stretch.stored).sum

section Lengths

variable (stretch : Stretch) (stretches others : List Stretch)

@[simp]
theorem fileLength_cons :
    fileLength (stretch :: stretches) = stretch.length + fileLength stretches :=
  List.sum_cons

@[simp]
theorem storedLength_cons :
    storedLength (stretch :: stretches) = stretch.stored + storedLength stretches :=
  List.sum_cons

theorem fileLength_append :
    fileLength (stretches ++ others) = fileLength stretches + fileLength others := by
  rw [fileLength, List.map_append, List.sum_append]
  rfl

theorem storedLength_append :
    storedLength (stretches ++ others) = storedLength stretches + storedLength others := by
  rw [storedLength, List.map_append, List.sum_append]
  rfl

theorem fileLength_reverse : fileLength stretches.reverse = fileLength stretches := by
  rw [fileLength, List.map_reverse, List.sum_reverse]
  rfl

theorem storedLength_reverse : storedLength stretches.reverse = storedLength stretches := by
  rw [storedLength, List.map_reverse, List.sum_reverse]
  rfl

end Lengths

/-- A body lacks what is stored and not there. -/
theorem length_fill (stretches : List Stretch) (bytes : List UInt8) :
    (fill stretches bytes).length + (storedLength stretches - bytes.length) =
      fileLength stretches := by
  induction stretches generalizing bytes with
  | nil =>
      rw [fill, List.length_nil, Nat.zero_add]
      exact Nat.zero_sub _
  | cons stretch rest ih =>
      cases stretch with
      | hole length =>
          have filled := ih bytes
          simp only [fill, List.length_append, List.length_replicate, fileLength_cons,
            storedLength_cons, Stretch.length, Stretch.stored]
          omega
      | data length =>
          have filled := ih (bytes.drop length)
          rw [List.length_drop] at filled
          simp only [fill, List.length_append, List.length_take, fileLength_cons,
            storedLength_cons, Stretch.length, Stretch.stored]
          omega

namespace Sparse

/-- The stretches of a layout reach as far as it says, and what is stored is theirs or remains. -/
structure Layout.Fits (size : Nat) (layout : Layout) : Prop where
  reaches : fileLength layout.stretches = layout.reached
  covers : storedLength layout.stretches + layout.remaining = size

/-- The hole that an item leaves before it. -/
theorem lengths_hole (reached offset : Nat) :
    let hole : List Stretch := if reached < offset then [.hole (offset - reached)] else []
    fileLength hole = offset - reached ∧ storedLength hole = 0 := by
  intro hole
  by_cases apart : reached < offset
  · rw [show hole = [.hole (offset - reached)] from if_pos apart]
    exact ⟨rfl, rfl⟩
  · rw [show hole = [] from if_neg apart, Nat.sub_eq_zero_of_le (Nat.not_lt.mp apart)]
    exact ⟨rfl, rfl⟩

theorem Layout.Fits.start (size : Nat) : Layout.Fits size ⟨[], 0, size⟩ := ⟨rfl, Nat.zero_add _⟩

variable {size : Nat} {layout after : Layout}

/-- An item of the map adds the hole before it and itself. -/
theorem Layout.Fits.add? {item : List UInt8 × List UInt8} (fits : layout.Fits size)
    (added : Sparse.add? size layout item = some after) : after.Fits size := by
  rw [Sparse.add?] at added
  split at added
  · cases added
    exact fits
  obtain ⟨offset, -, added⟩ := Option.bind_eq_some_iff.mp added
  obtain ⟨length, -, added⟩ := Option.bind_eq_some_iff.mp added
  split at added
  · cases added
  split at added
  · cases added
  next allowed =>
  obtain ⟨ascends, -, available⟩ : layout.reached ≤ offset ∧ offset + length < wordLimit ∧
      length ≤ layout.remaining := by
    simpa only [not_or, Nat.not_lt, Nat.not_le] using allowed
  obtain ⟨spans, stores⟩ := lengths_hole layout.reached offset
  obtain ⟨reaches, covers⟩ := fits
  cases added
  constructor
  · change fileLength _ = offset + length
    rw [List.cons_append, fileLength_cons, fileLength_append, spans, Stretch.length]
    omega
  · change storedLength _ + (layout.remaining - length) = size
    rw [List.cons_append, storedLength_cons, storedLength_append, stores, Stretch.stored]
    omega

theorem Layout.Fits.foldlM {items : List (List UInt8 × List UInt8)} (fits : layout.Fits size)
    (added : items.foldlM (Sparse.add? size) layout = some after) : after.Fits size := by
  induction items generalizing layout with
  | nil =>
      cases added
      exact fits
  | cons item items ih =>
      rw [List.foldlM_cons] at added
      obtain ⟨next, first, others⟩ := Option.bind_eq_some_iff.mp added
      exact ih (fits.add? first) others

theorem Layout.Fits.readMore? {bytes rest : List UInt8} (fits : layout.Fits size)
    (read : Sparse.readMore? size layout bytes = some (after, rest)) : after.Fits size := by
  fun_induction Sparse.readMore? size layout bytes with
  | case1 => cases read
  | case2 layout bytes _ next added _ ih => exact ih (fits.foldlM added) read
  | case3 layout bytes _ next added _ =>
      cases read
      exact fits.foldlM added
  | case4 => cases read

theorem fits_layout? {header : Header} {bytes rest : List UInt8}
    (known : layout? header size bytes = some (after, rest)) : after.Fits size := by
  rw [layout?] at known
  split at known
  · cases known
  next layout added =>
  have fits : layout.Fits size := (Layout.Fits.start size).foldlM added
  split at known
  · exact fits.readMore? known
  · cases known
    exact fits

/-- The map of a file with holes leads to a file of the length in the header. -/
theorem lengths_of_read? {header : Header} {bytes data : List UInt8} {stretches : List Stretch}
    (read : read? header size bytes = some (stretches, data)) :
    storedLength stretches = size ∧
      octal? (header.field 483 12) = some (fileLength stretches) := by
  rw [read?] at read
  split at read
  · cases read
  next layout rest known =>
  have fits := fits_layout? known
  split at read
  · next fitting =>
    obtain ⟨-, reaches, used⟩ := fitting
    cases read
    rw [storedLength_reverse, fileLength_reverse, fits.reaches]
    exact ⟨by rw [← fits.covers, used, Nat.add_zero], reaches⟩
  · cases read

end Sparse

/-- How long the file of a header with so many stored bytes is: a file with holes has its length in
a field of its own. -/
def Header.fileLength? (header : Header) (stored : Nat) : Option Nat :=
  if header.kind = 'S' then octal? (header.field 483 12) else some stored

/-- The stretches of an entry store as many bytes as its header says, and make up a file of the
length that the header declares. -/
theorem lengths_of_stretches? {header : Header} {stored : Nat} {after data : List UInt8}
    {stretches : List Stretch} (read : stretches? header stored after = some (stretches, data)) :
    storedLength stretches = stored ∧ header.fileLength? stored = some (fileLength stretches) := by
  rw [stretches?] at read
  rw [Header.fileLength?]
  split at read
  · next holes =>
    rw [if_pos holes]
    exact Sparse.lengths_of_read? read
  · next plain =>
    rw [if_neg plain]
    cases read
    exact ⟨rfl, rfl⟩

/-- At a place of an archive stands the header of an entry with so many stored bytes, in such
stretches, and with such bytes from its data on. -/
structure Heading (described : Described) (position : Nat) (bytes : List UInt8) (header : Header)
    (stored : Nat) (stretches : List Stretch) (data : List UInt8) : Prop where
  enough : blockSize ≤ bytes.length
  begins : ⟨bytes.take blockSize⟩ = header
  filled : ¬ header.isZero
  sound : header.isSound
  sized : described.size? header = some stored
  near : ¬ (wordLimit ≤ stored + (blockSize - 1) ∨
    wordLimit ≤ position + blockSize + roundedUp stored)
  plain : ¬ header.describes
  laidOut : stretches? header stored (bytes.drop blockSize) = some (stretches, data)

theorem isEmpty_of_block {bytes : List UInt8} (enough : blockSize ≤ bytes.length) :
    bytes.isEmpty = false :=
  List.isEmpty_eq_false_iff.mpr (List.ne_nil_of_length_pos (Nat.lt_of_lt_of_le (by decide) enough))

/-- Where the header of an entry stands, a reader gets to see the entry and goes on after it. -/
theorem entriesFrom_of_heading {ending : Ending} {described : Described} {position stored : Nat}
    {bytes data : List UInt8} {header : Header} {stretches : List Stretch}
    (heading : Heading described position bytes header stored stretches data) :
    entriesFrom ending described position bytes =
      .entry (described.path header)
        (if data.length < stored ∧ ending ≠ .whole then none else some (fill stretches data))
        (if data.length < roundedUp stored then .failed
          else entriesFrom ending {} (position + (bytes.length - data.length) + roundedUp stored)
            (bytes.drop (bytes.length - data.length + roundedUp stored))) := by
  obtain ⟨enough, rfl, filled, sound, sized, near, plain, laidOut⟩ := heading
  rw [entriesFrom]
  simp only [isEmpty_of_block enough, enough, filled, sound, sized, near, plain, Bool.not_true,
    Bool.false_eq_true, if_false, dif_pos]
  split
  · next refused => cases refused.symm.trans laidOut
  · next found =>
    cases found.symm.trans laidOut
    rfl

end Tar
end JarLedger
