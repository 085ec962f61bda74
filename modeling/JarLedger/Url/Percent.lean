import JarLedger.Bytes.Hex
import JarLedger.Bytes.Utf8

/-!
# Percent encoding

A byte written as `%` and two upper-case hexadecimal digits.  Which characters are written so
depends on where in an address they stand; controls and characters beyond ASCII are everywhere.
-/

namespace JarLedger
namespace Percent

/-- A byte in its escaped form. -/
def escape (byte : UInt8) : List Char :=
  ['%', (Hex.digit (byte.toNat / 16)).toUpper, (Hex.digit (byte.toNat % 16)).toUpper]

/-- Whether a character is escaped wherever it stands. -/
def isAlwaysEscaped (character : Char) : Bool :=
  character.toNat < 0x20 ∨ 0x7F ≤ character.toNat

/-- A character as it stands in an address. -/
def encodeChar (escaped : List Char) (character : Char) : List Char :=
  if isAlwaysEscaped character ∨ character ∈ escaped then
    (String.utf8EncodeChar character).flatMap escape
  else [character]

/-- A text as it stands in an address, with the characters of a set escaped. -/
def encode (escaped text : List Char) : List Char := text.flatMap (encodeChar escaped)

/-- The bytes that a text stands for; a percent sign without two digits after it is itself. -/
def decode : List Char → List UInt8
  | [] => []
  | '%' :: high :: low :: rest =>
      match Hex.value? high, Hex.value? low with
      | some highValue, some lowValue => UInt8.ofNat (highValue * 16 + lowValue) :: decode rest
      | _, _ => String.utf8EncodeChar '%' ++ decode (high :: low :: rest)
  | character :: rest => String.utf8EncodeChar character ++ decode rest

end Percent
end JarLedger
