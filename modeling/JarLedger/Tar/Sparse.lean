import JarLedger.Tar.Header

/-!
# Files with holes

A file with holes is stored as the blocks of its data.  A map of offset and length of each block
stands in the header and, if it is long, in further blocks after it.
-/

namespace JarLedger
namespace Tar

/-- A stretch of a file. -/
inductive Stretch where
  /-- So many zero bytes that are not stored. -/
  | hole (length : Nat)
  /-- So many stored bytes. -/
  | data (length : Nat)

namespace Sparse

/-- What is known of a file while its map is read. -/
structure Layout where
  /-- Stretches so far, last first. -/
  stretches : List Stretch
  /-- End of the last stretch in the file. -/
  reached : Nat
  /-- Stored bytes that no stretch covers yet. -/
  remaining : Nat

/-- The items of a map that fill a field, each of two numbers of twelve bytes. -/
def items (count : Nat) (field : List UInt8) : List (List UInt8 × List UInt8) :=
  (List.range count).map fun (place : Nat) =>
    ((field.drop (24 * place)).take 12, (field.drop (24 * place + 12)).take 12)

/-- Add an item of the map; `size` is the number of stored bytes.  Stretches ascend, cover no more
than is stored, and begin on a block. -/
def add? (size : Nat) (layout : Layout) (item : List UInt8 × List UInt8) : Option Layout :=
  if item.1.head? = some 0 ∨ item.2.head? = some 0 then some layout
  else do
    let offset ← octal? item.1
    let length ← octal? item.2
    if length ≠ 0 ∧ (size - layout.remaining) % blockSize ≠ 0 then none
    else if offset < layout.reached ∨ wordLimit ≤ offset + length ∨ layout.remaining < length then
      none
    else
      let hole := if layout.reached < offset then [.hole (offset - layout.reached)] else []
      return ⟨.data length :: hole ++ layout.stretches, offset + length, layout.remaining - length⟩

/-- Read the blocks that go on with the map, and count them. -/
def readMore? (size : Nat) (layout : Layout) (bytes : List UInt8) :
    Option (Layout × List UInt8) :=
  if _enough : blockSize ≤ bytes.length then
    match (items 21 bytes).foldlM (add? size) layout with
    | none => none
    | some layout =>
        if (bytes.drop 504).head? = some 1 then readMore? size layout (bytes.drop blockSize)
        else some (layout, bytes.drop blockSize)
  else none
termination_by bytes.length
decreasing_by simp only [List.length_drop, blockSize] at *; omega

theorem length_readMore? {size : Nat} {layout : Layout} {bytes : List UInt8}
    {found : Layout × List UInt8} (read : readMore? size layout bytes = some found) :
    found.2.length ≤ bytes.length := by
  fun_induction readMore? size layout bytes with
  | case1 => simp at read
  | case2 layout bytes enough layout' added extended ih =>
      have := ih read
      simp only [List.length_drop] at this
      omega
  | case3 layout bytes enough layout' added extended =>
      simp only [Option.some.injEq] at read
      subst read
      simp
  | case4 => simp at read

/-- Read the whole map, of which the first items stand in the header. -/
def layout? (header : Header) (size : Nat) (bytes : List UInt8) : Option (Layout × List UInt8) :=
  match (items 4 (header.field 386 96)).foldlM (add? size) ⟨[], 0, size⟩ with
  | none => none
  | some layout =>
      if (header.field 482 1).head? = some 1 then readMore? size layout bytes
      else some (layout, bytes)

theorem length_layout? {header : Header} {size : Nat} {bytes : List UInt8}
    {found : Layout × List UInt8} (read : layout? header size bytes = some found) :
    found.2.length ≤ bytes.length := by
  unfold layout? at read
  split at read
  · simp at read
  · split at read
    · exact length_readMore? read
    · simp only [Option.some.injEq] at read
      subst read
      exact Nat.le_refl _

/-- The stretches of an entry with so many stored bytes, and the bytes after its map.  The map has
to reach the size of the file and to cover all that is stored. -/
def read? (header : Header) (size : Nat) (bytes : List UInt8) :
    Option (List Stretch × List UInt8) :=
  match layout? header size bytes with
  | none => none
  | some (layout, rest) =>
      if header.isGnu ∧ octal? (header.field 483 12) = some layout.reached ∧ layout.remaining = 0
      then some (layout.stretches.reverse, rest)
      else none

theorem length_read? {header : Header} {size : Nat} {bytes : List UInt8}
    {found : List Stretch × List UInt8} (read : read? header size bytes = some found) :
    found.2.length ≤ bytes.length := by
  unfold read? at read
  split at read
  · simp at read
  · rename_i layout rest known
    split at read
    · simp only [Option.some.injEq] at read
      subst read
      exact length_layout? known
    · simp at read

end Sparse
end Tar
end JarLedger
