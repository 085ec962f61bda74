import JarLedger.Gzip.Member
import Mathlib.Algebra.Group.Nat.Defs

/-!
# Packing bytes into a gzip member

`Gzip.pack` writes bytes as they are, as one stored block between a plain header and the trailer.
A reader gets back the bytes and nothing else (`Gzip.unpack_pack`).
-/

namespace JarLedger

namespace Gzip

/-- So many bytes of a number, the least significant one first. -/
def littleEndianBytes : (count : Nat) → Nat → List UInt8
  | 0, _ => []
  | count + 1, number => UInt8.ofNat number :: littleEndianBytes count (number / 256)

theorem length_littleEndianBytes (count number : Nat) :
    (littleEndianBytes count number).length = count := by
  induction count generalizing number with
  | zero => rfl
  | succ count ih => rw [littleEndianBytes, List.length_cons, ih]

theorem littleEndian_littleEndianBytes (count number : Nat) :
    littleEndian (littleEndianBytes count number) = number % 256 ^ count := by
  induction count generalizing number with
  | zero => exact (Nat.mod_one number).symm
  | succ count ih =>
      have rest := ih (number / 256)
      rw [littleEndian] at rest ⊢
      have split : number % 256 ^ (count + 1) =
          number % 256 + 256 * (number / 256 % 256 ^ count) := by rw [Nat.pow_succ', Nat.mod_mul]
      rw [littleEndianBytes, List.foldr_cons, rest, UInt8.toNat_ofNat', split]

/-- The bytes of a gzip member that stores bytes as they are. -/
def pack (body : List UInt8) : List UInt8 :=
  [0x1f, 0x8b, 8, 0, 0, 0, 0, 0, 0, 0xff] ++
    (1 :: (littleEndianBytes 2 body.length ++ (littleEndianBytes 2 (0xFFFF - body.length) ++
      (body ++ (littleEndianBytes 4 (Crc32.checksum body).toNat ++
        littleEndianBytes 4 body.length)))))

end Gzip

namespace Bits

theorem length_ofByte (byte : UInt8) : (ofByte byte).length = 8 := by
  rw [ofByte, List.length_map, List.length_range]

theorem ofBytes_append (front back : List UInt8) :
    ofBytes (front ++ back) = ofBytes front ++ ofBytes back := List.flatMap_append

theorem length_ofBytes (bytes : List UInt8) : (ofBytes bytes).length = 8 * bytes.length := by
  induction bytes with
  | nil => rfl
  | cons byte rest ih =>
      rw [ofBytes, List.flatMap_cons, ← ofBytes, List.length_append, length_ofByte, ih,
        List.length_cons]
      omega

theorem toNat_append (front back : Bits) :
    toNat (front ++ back) = toNat front + 2 ^ front.length * toNat back := by
  induction front with
  | nil => simp [toNat]
  | cons bit rest ih =>
      rw [List.cons_append, toNat, ih, toNat, List.length_cons, Nat.pow_succ', Nat.mul_add,
        ← Nat.mul_assoc, Nat.add_assoc]

theorem toNat_ofByte (byte : UInt8) : toNat (ofByte byte) = byte.toNat := by
  have all : ∀ number < 256,
      toNat ((List.range 8).map fun place => number.testBit place) = number := by
    decide +kernel
  exact all byte.toNat byte.toNat_lt

theorem toNat_ofBytes (bytes : List UInt8) : toNat (ofBytes bytes) = Gzip.littleEndian bytes := by
  induction bytes with
  | nil => rfl
  | cons byte rest ih =>
      rw [ofBytes, List.flatMap_cons, ← ofBytes, toNat_append, toNat_ofByte, length_ofByte, ih]
      rfl

/-- Whole bytes are taken as their number. -/
theorem take?_ofBytes {count : Nat} {front : List UInt8} (whole : 8 * front.length = count)
    (back : List UInt8) :
    take? count (ofBytes (front ++ back)) = .ok (Gzip.littleEndian front, ofBytes back) := by
  have same : (ofBytes front).length = count := (length_ofBytes front).trans whole
  rw [take?, ofBytes_append, List.take_left' same, List.drop_left' same, if_pos same,
    toNat_ofBytes]

end Bits

namespace Inflate

theorem storedBytes_ofBytes (bytes back : List UInt8) (output : Output) :
    storedBytes bytes.length output (Bits.ofBytes (bytes ++ back)) =
      (output ++ bytes.toArray, .ok (Bits.ofBytes back)) := by
  induction bytes generalizing output with
  | nil => simp [storedBytes]
  | cons byte rest ih =>
      have taken : Bits.take? 8 (Bits.ofBytes (byte :: rest ++ back)) =
          .ok (byte.toNat, Bits.ofBytes (rest ++ back)) :=
        Bits.take?_ofBytes (rfl : 8 * [byte].length = 8) (rest ++ back)
      rw [List.length_cons, storedBytes, taken]
      simp only [ih, UInt8.ofNat_toNat]
      simp

theorem readStoredLength_ofBytes {length : Nat} (short : length ≤ 0xFFFF) (filler : Bits)
    (few : filler.length = 5) (back : List UInt8) :
    readStoredLength (filler ++ Bits.ofBytes (Gzip.littleEndianBytes 2 length ++
      (Gzip.littleEndianBytes 2 (0xFFFF - length) ++ back))) =
      .ok (length, Bits.ofBytes back) := by
  have number {value : Nat} (small : value ≤ 0xFFFF) (rest : List UInt8) :
      Bits.take? 16 (Bits.ofBytes (Gzip.littleEndianBytes 2 value ++ rest)) =
        .ok (value, Bits.ofBytes rest) := by
    have fits : value < 256 ^ 2 := Nat.lt_of_le_of_lt small (by decide)
    rw [Bits.take?_ofBytes (by rw [Gzip.length_littleEndianBytes]),
      Gzip.littleEndian_littleEndianBytes, Nat.mod_eq_of_lt fits]
  have aligned (bytes : List UInt8) :
      Bits.align (filler ++ Bits.ofBytes bytes) = Bits.ofBytes bytes := by
    have five : (filler ++ Bits.ofBytes bytes).length % 8 = 5 := by
      rw [List.length_append, few, Bits.length_ofBytes]
      omega
    rw [Bits.align, five, List.drop_left' few]
  have complement : length + (0xFFFF - length) = 0xFFFF := Nat.add_sub_of_le short
  simp only [readStoredLength, aligned, number short, number (Nat.sub_le _ _), bind, Except.bind,
    complement, if_true]
  rfl

/-- The last block ends the stream where its content does. -/
theorem blocks_last {output written : Output} {bits rest after : Bits} {header : Nat}
    (taken : Bits.take? 3 bits = .ok (header, rest)) (last : header % 2 = 1)
    (read : content (header / 2) output rest = (written, .ok after)) :
    blocks output bits = (written, .ok after.align) := by
  rw [blocks]
  split
  · next refused => rw [taken] at refused; cases refused
  · next taken' =>
    rw [taken] at taken'
    cases taken'
    split
    · next refused => rw [read] at refused; cases refused
    · next read' =>
      rw [read] at read'
      cases read'
      exact if_pos last

/-- A single block of stored bytes. -/
theorem run_stored (body trailer : List UInt8) (short : body.length ≤ 0xFFFF) :
    run (1 :: (Gzip.littleEndianBytes 2 body.length ++
      (Gzip.littleEndianBytes 2 (0xFFFF - body.length) ++ (body ++ trailer)))) =
      (body, .ok trailer) := by
  -- Three bits say that it is the last block and stored, and five fill up their byte.
  have header (back : List UInt8) : Bits.take? 3 (Bits.ofBytes (1 :: back)) =
      .ok (1, List.replicate 5 false ++ Bits.ofBytes back) := rfl
  have read : content (1 / 2) #[] (List.replicate 5 false ++
      Bits.ofBytes (Gzip.littleEndianBytes 2 body.length ++
        (Gzip.littleEndianBytes 2 (0xFFFF - body.length) ++ (body ++ trailer)))) =
      (body.toArray, .ok (Bits.ofBytes trailer)) := by
    rw [content, stored, readStoredLength_ofBytes short _ rfl]
    simp only [storedBytes_ofBytes, Array.empty_append]
  have whole : (Bits.ofBytes trailer).align = Bits.ofBytes trailer := by
    rw [Bits.align, Bits.length_ofBytes, Nat.mul_mod_right, List.drop_zero]
  have left : (Bits.ofBytes trailer).bytesLeft = trailer.length := by
    rw [Bits.bytesLeft, Bits.length_ofBytes, Nat.mul_div_cancel_left _ (by decide)]
  have split : 1 :: (Gzip.littleEndianBytes 2 body.length ++
      (Gzip.littleEndianBytes 2 (0xFFFF - body.length) ++ (body ++ trailer))) =
      1 :: (Gzip.littleEndianBytes 2 body.length ++
        (Gzip.littleEndianBytes 2 (0xFFFF - body.length) ++ body)) ++ trailer := by simp
  rw [run, blocks_last (header _) rfl read, whole]
  simp only [Except.map, left]
  rw [split, List.length_append, Nat.add_sub_cancel, List.drop_left]

end Inflate

/-- What was packed is unpacked again, as far as one stored block can hold it. -/
theorem Gzip.unpack_pack (body : List UInt8) (short : body.length ≤ 0xFFFF) :
    unpack { bytes := pack body } = ⟨body, .whole⟩ := by
  have header (back : List UInt8) :
      skipHeader? ([0x1f, 0x8b, 8, 0, 0, 0, 0, 0, 0, 0xff] ++ back) = some back := rfl
  have fits : trailerFits body (littleEndianBytes 4 (Crc32.checksum body).toNat ++
      littleEndianBytes 4 body.length) = true := by
    have four (number : Nat) := length_littleEndianBytes 4 number
    have checked : (Crc32.checksum body).toNat < 256 ^ 4 :=
      Nat.lt_of_lt_of_le (UInt32.toNat_lt _) (by decide)
    rw [trailerFits, List.take_left' (four _), List.drop_left' (four _),
      List.take_of_length_le (Nat.le_of_eq (four _)), littleEndian_littleEndianBytes,
      littleEndian_littleEndianBytes, Nat.mod_eq_of_lt checked]
    exact decide_eq_true ⟨rfl, rfl⟩
  have eight : ¬ (littleEndianBytes 4 (Crc32.checksum body).toNat ++
      littleEndianBytes 4 body.length).length < 8 := by
    rw [List.length_append, length_littleEndianBytes, length_littleEndianBytes]
    decide
  rw [unpack, pack, header]
  simp only [Inflate.run_stored body _ short, Bool.false_eq_true, false_and, if_false, eight, fits,
    if_true]

end JarLedger
