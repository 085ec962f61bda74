import JarLedger.Bytes.Utf8
import JarLedger.Text.Blank

/-!
# Header blocks of a tar archive

A header is one block of fields at fixed places.  Numbers are octal text, or, where the first bit
is set, binary.  Two formats are known by their magic: `ustar`, whose long names are split in two,
and that of GNU tar, which can describe files with holes.
-/

namespace JarLedger
namespace Tar

/-- Bytes of a block. -/
def blockSize : Nat := 512

/-- Numbers in an archive are below this. -/
def wordLimit : Nat := UInt64.size

/-- The bytes of a field up to its first zero byte. -/
def truncated (bytes : List UInt8) : List UInt8 := bytes.takeWhile fun byte => byte ≠ 0

/-- Number that decimal or octal digits spell, after an optional plus sign. -/
def unsigned? (base : Nat) (text : List Char) : Option Nat :=
  let digits := if text.head? = some '+' then text.tail else text
  let isDigit (character : Char) : Bool :=
    '0' ≤ character ∧ character.toNat < '0'.toNat + base
  if digits.isEmpty ∨ !digits.all isDigit then none
  else
    let number := digits.foldl (fun number digit => number * base + (digit.toNat - '0'.toNat)) 0
    if number < wordLimit then some number else none

/-- Number of a field of octal text, which may have blanks around it. -/
def octal? (field : List UInt8) : Option Nat := do
  let text ← Utf8.decode? (truncated field)
  unsigned? 8 (Text.trimList Text.isBlank text.toList)

/-- Number of a field that is binary if its first bit is set; of that, eight bytes count. -/
def number? (field : List UInt8) : Option Nat :=
  match field with
  | [] => none
  | first :: _ =>
      if 0x80 ≤ first.toNat then
        let digits := field.drop (field.length - 8)
        some (digits.foldl (fun number byte => number * 256 + byte.toNat) 0)
      else octal? field

/-- A header block. -/
structure Header where
  bytes : List UInt8

namespace Header

/-- The field at a place. -/
def field (header : Header) (start length : Nat) : List UInt8 :=
  (header.bytes.drop start).take length

/-- Whether every byte is zero. -/
def isZero (header : Header) : Bool := header.bytes.all fun byte => byte = 0

/-- Sum of all bytes, those of the checksum counted as spaces. -/
def sum (header : Header) : Nat :=
  let total (bytes : List UInt8) : Nat := (bytes.map UInt8.toNat).foldr (· + ·) 0
  total (header.bytes.take 148) + total (header.bytes.drop 156) + 8 * 32

/-- Whether the checksum fits. -/
def isSound (header : Header) : Bool := octal? (header.field 148 8) = some header.sum

/-- Size of the entry's data in the archive. -/
def size? (header : Header) : Option Nat := number? (header.field 124 12)

/-- Letter of the entry's type. -/
def kind (header : Header) : Char := Char.ofNat ((header.bytes.drop 156).headD 0).toNat

/-- Whether the header is in the `ustar` format. -/
def isUstar (header : Header) : Bool :=
  header.field 257 8 = [0x75, 0x73, 0x74, 0x61, 0x72, 0, 0x30, 0x30]

/-- Whether the header is in the format of GNU tar. -/
def isGnu (header : Header) : Bool :=
  header.field 257 8 = [0x75, 0x73, 0x74, 0x61, 0x72, 0x20, 0x20, 0]

/-- Name of the entry: in the `ustar` format, the first part of a long name stands in a field of its
own. -/
def name (header : Header) : List UInt8 :=
  let last := truncated (header.field 0 100)
  let first := truncated (header.field 345 155)
  if header.isUstar ∧ !first.isEmpty then first ++ 0x2f :: last else last

end Header
end Tar
end JarLedger
