import JarLedger.Gzip.Member
import JarLedger.Tar.Extension
import JarLedger.Tar.Sparse

/-!
# Entries of a tar archive

`Tar.entries` is what a reader of the archive gets to see: entries in order, then the end or a
failure.  The archive ends with a block of zeros or where the data ends between blocks.  Long names
and extension records stand in entries of their own before the entry that they describe.  The body
of an entry that the data cuts short is as long as the data; the failure then follows it.  Any bytes
are a path here; `unnamed` is for what hands out entries and is stricter about paths.
-/

namespace JarLedger
namespace Tar

/-- What a reader of an archive gets to see. -/
inductive Entries where
  /-- The archive ends. -/
  | done
  /-- The archive cannot be read on. -/
  | failed
  /-- An entry whose path cannot be read, and what follows. -/
  | unnamed (rest : Entries)
  /-- An entry with its path, its body unless that cannot be read, and what follows. -/
  | entry (path : List UInt8) (body : Option (List UInt8)) (rest : Entries)

/-- What is known of the next entry before its own header. -/
structure Described where
  longName : Option (List UInt8) := none
  longLink : Option (List UInt8) := none
  extensions : Option (List UInt8) := none

/-- Whether anything is known of the next entry. -/
def Described.any (described : Described) : Bool :=
  described.longName.isSome ∨ described.longLink.isSome ∨ described.extensions.isSome

/-- Take in an entry of a kind that describes the next one; each kind may stand once. -/
def Described.extend? (described : Described) (kind : Char) (body : List UInt8) :
    Option Described :=
  match kind with
  | 'L' => if described.longName.isSome then none else some { described with longName := some body }
  | 'K' => if described.longLink.isSome then none else some { described with longLink := some body }
  | _ =>
      if described.extensions.isSome then none else some { described with extensions := some body }

/-- Whether the entry of a header describes the next one. -/
def Header.describes (header : Header) : Bool :=
  (header.isGnu ∨ header.isUstar) ∧ (header.kind = 'L' ∨ header.kind = 'K' ∨ header.kind = 'x')

/-- A long name without the zero byte that may close it. -/
def unterminated (name : List UInt8) : List UInt8 :=
  if name.getLast? = some 0 then name.dropLast else name

/-- Path of an entry: the long name, else the one in the extension records, else the header's. -/
def Described.path (described : Described) (header : Header) : List UInt8 :=
  match described.longName with
  | some name => unterminated name
  | none => (described.extensions.bind (Extension.value? "path")).getD header.name

/-- Size of an entry: the one in the extension records, else the header's, which has to be a number
in any case. -/
def Described.size? (described : Described) (header : Header) : Option Nat :=
  header.size?.map (described.extensions.bind (Extension.number? "size")).getD

/-- A size rounded up to whole blocks. -/
def roundedUp (size : Nat) : Nat := (size + (blockSize - 1)) / blockSize * blockSize

theorem le_roundedUp (size : Nat) : size ≤ roundedUp size := by
  rw [roundedUp, blockSize]
  omega

/-- The bytes of stretches whose data is taken from the front of some bytes. -/
def fill : List Stretch → List UInt8 → List UInt8
  | [], _ => []
  | .hole length :: rest, bytes => List.replicate length 0 ++ fill rest bytes
  | .data length :: rest, bytes => bytes.take length ++ fill rest (bytes.drop length)

/-- The stretches of an entry, and the bytes from its data on. -/
def stretches? (header : Header) (size : Nat) (bytes : List UInt8) :
    Option (List Stretch × List UInt8) :=
  if header.kind = 'S' then Sparse.read? header size bytes else some ([.data size], bytes)

theorem length_stretches? {header : Header} {size : Nat} {bytes : List UInt8}
    {found : List Stretch × List UInt8} (read : stretches? header size bytes = some found) :
    found.2.length ≤ bytes.length := by
  unfold stretches? at read
  split at read
  · exact Sparse.length_read? read
  · simp only [Option.some.injEq] at read
    subst read
    exact Nat.le_refl _

/-- The entries from a header on.  `position` is how many bytes come before it. -/
def entriesFrom (ending : Ending) (described : Described) (position : Nat) (bytes : List UInt8) :
    Entries :=
  let nothingMore : Entries := if described.any then .failed else .done
  if bytes.isEmpty then if ending = .whole then nothingMore else .failed
  else if _block : blockSize ≤ bytes.length then
    let header : Header := ⟨bytes.take blockSize⟩
    let after := bytes.drop blockSize
    if header.isZero then nothingMore
    else if !header.isSound then .failed
    else
      match described.size? header with
      | none => .failed
      | some size =>
          let skipped := roundedUp size
          if wordLimit ≤ size + (blockSize - 1) ∨ wordLimit ≤ position + blockSize + skipped then
            .failed
          else if header.describes then
            if after.length < skipped then .failed
            else
              match described.extend? header.kind (after.take size) with
              | none => .failed
              | some described =>
                  entriesFrom ending described (position + blockSize + skipped)
                    (bytes.drop (blockSize + skipped))
          else
            match _read : stretches? header size after with
            | none => .failed
            | some (stretches, data) =>
                let body :=
                  if data.length < size ∧ ending ≠ .whole then none else some (fill stretches data)
                let used := bytes.length - data.length
                let rest :=
                  if data.length < skipped then .failed
                  else entriesFrom ending {} (position + used + skipped)
                    (bytes.drop (used + skipped))
                .entry (described.path header) body rest
  else .failed
termination_by bytes.length
decreasing_by
  · simp only [List.length_drop, blockSize] at *; omega
  · have shorter : data.length ≤ (bytes.drop blockSize).length := length_stretches? _read
    simp only [List.length_drop, blockSize] at *
    omega

/-- The entries of an archive. -/
def entries (archive : Unpacked) : Entries := entriesFrom archive.ending {} 0 archive.bytes

end Tar
end JarLedger
