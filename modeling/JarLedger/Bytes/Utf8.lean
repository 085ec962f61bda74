/-!
# UTF-8

Writing a text as bytes, and an automaton that reads bytes one at a time.  A byte that cannot go on
with the character begun ends a damaged character there, and is looked at afresh; so every longest
piece that is the beginning of a character, and every byte that begins none, counts as one damaged
character.  `Utf8.lossy` shows each of these as U+FFFD, `Utf8.decode?` refuses them.
-/

namespace JarLedger
namespace Utf8

/-- The bytes of a text. -/
def encode (text : String) : List UInt8 := text.toList.flatMap String.utf8EncodeChar

/-- A character of which the first bytes are read. -/
structure Begun where
  /-- Bits of the code point read so far. -/
  value : Nat
  /-- How many bytes are missing. -/
  missing : Nat
  /-- Least value of the next byte. -/
  low : Nat
  /-- Greatest value of the next byte. -/
  high : Nat

/-- What is read of a list of bytes. -/
structure Decoder where
  /-- The characters read, last first; none for a damaged one. -/
  read : List (Option Char)
  /-- The character that is not complete yet. -/
  begun : Option Begun

/-- Nothing read. -/
def Decoder.start : Decoder := ⟨[], none⟩

/-- Read the first byte of a character. -/
def Decoder.first (decoder : Decoder) (byte : Nat) : Decoder :=
  let begin (value missing low high : Nat) : Decoder :=
    ⟨decoder.read, some ⟨value, missing, low, high⟩⟩
  if byte < 0x80 then ⟨some (Char.ofNat byte) :: decoder.read, none⟩
  else if byte < 0xC2 then ⟨none :: decoder.read, none⟩
  else if byte < 0xE0 then begin (byte - 0xC0) 1 0x80 0xBF
  else if byte = 0xE0 then begin 0 2 0xA0 0xBF
  else if byte = 0xED then begin 0xD 2 0x80 0x9F
  else if byte < 0xF0 then begin (byte - 0xE0) 2 0x80 0xBF
  else if byte = 0xF0 then begin 0 3 0x90 0xBF
  else if byte < 0xF4 then begin (byte - 0xF0) 3 0x80 0xBF
  else if byte = 0xF4 then begin 4 3 0x80 0x8F
  else ⟨none :: decoder.read, none⟩

/-- Read one byte. -/
def Decoder.step (decoder : Decoder) (byte : UInt8) : Decoder :=
  match decoder.begun with
  | none => decoder.first byte.toNat
  | some begun =>
      if begun.low ≤ byte.toNat ∧ byte.toNat ≤ begun.high then
        let value := begun.value * 64 + (byte.toNat - 0x80)
        if begun.missing = 1 then ⟨some (Char.ofNat value) :: decoder.read, none⟩
        else ⟨decoder.read, some ⟨value, begun.missing - 1, 0x80, 0xBF⟩⟩
      else Decoder.first ⟨none :: decoder.read, none⟩ byte.toNat

/-- All characters in order; one that is not complete at the end is damaged. -/
def Decoder.finish (decoder : Decoder) : List (Option Char) :=
  match decoder.begun with
  | none => decoder.read.reverse
  | some _ => (none :: decoder.read).reverse

/-- The characters of a list of bytes, none for a damaged one. -/
def characters (bytes : List UInt8) : List (Option Char) :=
  (bytes.foldl Decoder.step Decoder.start).finish

/-- The text of bytes, with U+FFFD in the place of damaged characters. -/
def lossy (bytes : List UInt8) : String :=
  String.ofList ((characters bytes).map fun character => character.getD '\uFFFD')

/-- The text of bytes, if no character is damaged. -/
def decode? (bytes : List UInt8) : Option String :=
  let read := characters bytes
  if read.all Option.isSome then some (String.ofList (read.filterMap id)) else none

end Utf8
end JarLedger
