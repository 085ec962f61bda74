/-!
# Hexadecimal text

Bytes written as pairs of lower-case hexadecimal digits, and read back in either case.  Reading
what was written returns the same bytes (`Hex.decode?_encode`).
-/

namespace JarLedger
namespace Hex

/-- The sixteen digits in the order of their values. -/
def digits : List Char := "0123456789abcdef".toList

/-- Digit of a value below sixteen. -/
def digit (number : Nat) : Char := digits.getD number '0'

/-- Value of a digit in either case. -/
def value? (character : Char) : Option Nat := digits.findIdx? (· == character.toLower)

/-- The characters that write a list of bytes. -/
def encodeBytes : List UInt8 → List Char
  | [] => []
  | byte :: rest => digit (byte.toNat / 16) :: digit (byte.toNat % 16) :: encodeBytes rest

/-- The bytes that pairs of digits spell; odd length and other characters are refused. -/
def decodeChars : List Char → Option (List UInt8)
  | [] => some []
  | [_] => none
  | high :: low :: rest => do
      let highValue ← value? high
      let lowValue ← value? low
      let bytes ← decodeChars rest
      return UInt8.ofNat (highValue * 16 + lowValue) :: bytes

/-- Hexadecimal text of bytes. -/
def encode (bytes : List UInt8) : String := String.ofList (encodeBytes bytes)

/-- Bytes of hexadecimal text. -/
def decode? (text : String) : Option (List UInt8) := decodeChars text.toList

theorem value?_digit {number : Nat} (small : number < 16) :
    value? (digit number) = some number := by
  have every : ∀ n ∈ List.range 16, value? (digit n) = some n := by decide
  exact every number (List.mem_range.mpr small)

@[simp]
theorem decodeChars_encodeBytes (bytes : List UInt8) :
    decodeChars (encodeBytes bytes) = some bytes := by
  induction bytes with
  | nil => rfl
  | cons byte rest ih =>
      have bound : byte.toNat < 256 := byte.toNat_lt
      simp only [encodeBytes, decodeChars, value?_digit (show byte.toNat / 16 < 16 by omega),
        value?_digit (show byte.toNat % 16 < 16 by omega), ih, Option.bind_eq_bind,
        Option.bind_some, Option.pure_def, show byte.toNat / 16 * 16 + byte.toNat % 16 = byte.toNat
          by omega, UInt8.ofNat_toNat]

/-- Reading undoes writing. -/
@[simp]
theorem decode?_encode (bytes : List UInt8) : decode? (encode bytes) = some bytes := by
  simp [decode?, encode]

end Hex
end JarLedger
