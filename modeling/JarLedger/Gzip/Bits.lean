/-!
# Bit streams

A stream of bits is taken from bytes with the least significant bit of each byte first.  Since a
stream starts at the start of a byte, its length tells how far it is from the next one.
-/

namespace JarLedger

/-- Bits in the order in which they are read. -/
abbrev Bits : Type := List Bool

/-- Why a stream could not be read on. -/
inductive Fault where
  /-- The stream ended too early. -/
  | truncated
  /-- The stream breaks a rule of its format. -/
  | corrupt
  deriving DecidableEq, Repr

namespace Bits

/-- The bits of a byte. -/
def ofByte (byte : UInt8) : Bits := (List.range 8).map fun place => byte.toNat.testBit place

/-- The bits of a list of bytes. -/
def ofBytes (bytes : List UInt8) : Bits := bytes.flatMap ofByte

/-- Number whose binary digits are given, the least significant one first. -/
def toNat : Bits → Nat
  | [] => 0
  | bit :: rest => bit.toNat + 2 * toNat rest

/-- Take a number of so many bits. -/
def take? (count : Nat) (bits : Bits) : Except Fault (Nat × Bits) :=
  let taken := bits.take count
  if taken.length = count then .ok (toNat taken, bits.drop count) else .error .truncated

/-- A reading that succeeds leaves fewer than so many bits.  Readers call themselves on what a
reading leaves, and this is why they come to an end. -/
def Leaves (limit : Nat) {α : Type} (reading : Except Fault (α × Bits)) : Prop :=
  ∀ (value : α) (rest : Bits), reading = .ok (value, rest) → rest.length < limit

theorem leaves_error {limit : Nat} {α : Type} (fault : Fault) :
    Leaves limit (.error fault : Except Fault (α × Bits)) := by
  intro value rest read
  cases read

theorem leaves_ok {limit : Nat} {α : Type} {value : α} {rest : Bits} (short : rest.length < limit) :
    Leaves limit (.ok (value, rest)) := by
  rintro _ _ ⟨⟩
  exact short

/-- What follows a reading may be judged by what the reading leaves. -/
theorem leaves_bind {limit middle : Nat} {α β : Type} {first : Except Fault (α × Bits)}
    {next : α × Bits → Except Fault (β × Bits)} (front : Leaves middle first)
    (back : ∀ (value : α) (rest : Bits), rest.length < middle → Leaves limit (next (value, rest))) :
    Leaves limit (first >>= next) := by
  cases first with
  | error fault => exact leaves_error fault
  | ok entry => exact back entry.1 entry.2 (front entry.1 entry.2 rfl)

theorem length_of_take? {count number : Nat} {bits rest : Bits}
    (taken : take? count bits = .ok (number, rest)) : rest.length + count = bits.length := by
  simp only [take?] at taken
  split at taken
  · next enough =>
    obtain ⟨_, rfl⟩ := Prod.mk.inj (Except.ok.inj taken)
    rw [List.length_take] at enough
    rw [List.length_drop]
    omega
  · cases taken

theorem leaves_take? {limit : Nat} {bits : Bits} (count : Nat) (short : bits.length < limit) :
    Leaves limit (take? count bits) := by
  intro number rest taken
  have consumed := length_of_take? taken
  omega

/-- The stream from the start of the next byte on. -/
def align (bits : Bits) : Bits := bits.drop (bits.length % 8)

theorem length_align (bits : Bits) : bits.align.length ≤ bits.length := by
  simp [align]

/-- How many whole bytes are left. -/
def bytesLeft (bits : Bits) : Nat := bits.length / 8

end Bits
end JarLedger
