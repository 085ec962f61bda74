/-!
# The cyclic redundancy check of gzip

Bits are taken least significant first and divided by the polynomial `0xEDB88320`.
-/

namespace JarLedger
namespace Crc32

/-- Divide one bit out of the remainder. -/
def shift (remainder : UInt32) : UInt32 :=
  if remainder &&& 1 = 1 then remainder >>> 1 ^^^ 0xEDB88320 else remainder >>> 1

/-- Take one byte into the remainder. -/
def step (remainder : UInt32) (byte : UInt8) : UInt32 :=
  (List.range 8).foldl (fun rest _ => shift rest) (remainder ^^^ byte.toUInt32)

/-- Check value of a list of bytes. -/
def checksum (bytes : List UInt8) : UInt32 := ~~~(bytes.foldl step 0xFFFFFFFF)

end Crc32
end JarLedger
