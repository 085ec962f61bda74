import JarLedger.Digest.Crc32
import JarLedger.Gzip.Inflate

/-!
# Members of a gzip stream

A member is a header, a deflated body, and a trailer with a check value and the size of the body.
Only the first member counts.  `Gzip.unpack` says which bytes a reader gets to see, in order, and
how the data ends for it: bytes are handed over in windows, and a window in which damage is met is
withheld as a whole.
-/

namespace JarLedger

/-- Bytes that come from outside. -/
structure ByteSource where
  /-- The bytes that arrive. -/
  bytes : List UInt8
  /-- Whether a failure follows them, and not the end of the data. -/
  fails : Bool := false

/-- How a sequence of bytes ends for its reader. -/
inductive Ending where
  /-- All bytes are there and checked. -/
  | whole
  /-- A fault is reported once, after which the data counts as ended. -/
  | refused
  /-- A fault is reported by every further read. -/
  | broken
  deriving DecidableEq, Repr

/-- Bytes that a reader gets to see, and how they end. -/
structure Unpacked where
  bytes : List UInt8
  ending : Ending

namespace Gzip

/-- How many bytes are unpacked at a time. -/
def windowSize : Nat := 32768

/-- How many bytes a reader asks for at a time. -/
def readSize : Nat := 512

/-- Greatest length of a text in a header. -/
def greatestText : Nat := 65535

/-- Number of two bytes, the less significant one first. -/
def word16 (low high : UInt8) : Nat := low.toNat + 256 * high.toNat

/-- Number of bytes, the least significant one first. -/
def littleEndian (bytes : List UInt8) : Nat :=
  bytes.foldr (fun byte number => byte.toNat + 256 * number) 0

/-- The bytes after an extra field that is there if its flag is set. -/
def skipExtra? (present : Bool) (bytes : List UInt8) : Option (List UInt8) :=
  if !present then some bytes
  else
    match bytes with
    | low :: high :: rest =>
        if word16 low high ≤ rest.length then some (rest.drop (word16 low high)) else none
    | _ => none

/-- The bytes after a text closed by a zero byte that is there if its flag is set. -/
def skipText? (present : Bool) (bytes : List UInt8) : Option (List UInt8) :=
  if !present then some bytes
  else
    let text := bytes.takeWhile fun byte => byte ≠ 0
    if text.length ≤ greatestText ∧ text.length < bytes.length then
      some (bytes.drop (text.length + 1))
    else none

/-- The bytes after a check value of the header that is there if its flag is set; `full` holds the
bytes from the start of the header on. -/
def skipCheck? (present : Bool) (full bytes : List UInt8) : Option (List UInt8) :=
  if !present then some bytes
  else
    match bytes with
    | low :: high :: rest =>
        let header := full.take (full.length - bytes.length)
        if word16 low high = (Crc32.checksum header).toNat % 65536 then some rest else none
    | _ => none

/-- The bytes after the header of a member. -/
def skipHeader? (bytes : List UInt8) : Option (List UInt8) :=
  match bytes with
  | 0x1f :: 0x8b :: 8 :: flags :: _ :: _ :: _ :: _ :: _ :: _ :: rest => do
      let set (place : Nat) : Bool := flags.toNat.testBit place
      if set 5 ∨ set 6 ∨ set 7 then none
      let rest ← skipExtra? (set 2) rest
      let rest ← skipText? (set 3) rest
      let rest ← skipText? (set 4) rest
      skipCheck? (set 1) bytes rest
  | _ => none

/-- Whether a trailer fits a body. -/
def trailerFits (body trailer : List UInt8) : Bool :=
  littleEndian (trailer.take 4) = (Crc32.checksum body).toNat ∧
    littleEndian ((trailer.drop 4).take 4) = body.length % UInt32.size

/-- The part of some bytes that lies in full windows. -/
def fullWindows (body : List UInt8) : List UInt8 :=
  body.take (body.length / windowSize * windowSize)

/-- The part of some bytes that is read before a failing source is asked for more. -/
def readAhead (body : List UInt8) : List UInt8 :=
  body.take (body.length / windowSize * windowSize + readSize)

/-- What a reader gets to see of the first member. -/
def unpack (source : ByteSource) : Unpacked :=
  match skipHeader? source.bytes with
  | none => ⟨[], .refused⟩
  | some rest =>
      match Inflate.run rest with
      | (body, .error .corrupt) => ⟨fullWindows body, .broken⟩
      | (body, .error .truncated) => ⟨if source.fails then readAhead body else body, .broken⟩
      | (body, .ok trailer) =>
          if source.fails ∧ trailer.isEmpty then ⟨readAhead body, .broken⟩
          else if trailer.length < 8 then ⟨body, .broken⟩
          else if trailerFits body trailer then ⟨body, .whole⟩
          else ⟨body, .refused⟩

/-- The body of the first member, if all of it is there and checked. -/
def decompress? (bytes : List UInt8) : Option (List UInt8) :=
  let unpacked := unpack { bytes }
  if unpacked.ending = .whole then some unpacked.bytes else none

end Gzip
end JarLedger
