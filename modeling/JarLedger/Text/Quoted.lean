/-!
# Quoted text

A text between double quotes as it is shown in messages.  Quotes and backslashes have a backslash
before them, line ends and the like are letters after a backslash, and characters that cannot be
seen are hexadecimal codes in braces.
-/

namespace JarLedger
namespace Text

/-- Ranges of characters that leave no mark of their own: controls, separators, marks that combine
with the character before them, directions, and private or missing characters. -/
def unseenRanges : List (Nat × Nat) := [
  (0x00, 0x1F), (0x7F, 0xA0), (0xAD, 0xAD), (0x300, 0x36F), (0x483, 0x489), (0x591, 0x5BD),
  (0x600, 0x605), (0x610, 0x61A), (0x61C, 0x61C), (0x64B, 0x65F), (0x6D6, 0x6DD), (0x1680, 0x1680),
  (0x1AB0, 0x1AFF), (0x1DC0, 0x1DFF), (0x2000, 0x200F), (0x2028, 0x202F), (0x205F, 0x206F),
  (0x20D0, 0x20F0), (0x3000, 0x3000), (0x302A, 0x302F), (0xE000, 0xF8FF), (0xFE00, 0xFE0F),
  (0xFE20, 0xFE2F), (0xFEFF, 0xFEFF), (0xFFF0, 0xFFFB), (0xFFFE, 0xFFFF), (0xE0000, 0x10FFFF)]

/-- Whether a character can be seen. -/
def isSeen (character : Char) : Bool :=
  unseenRanges.all fun range =>
    character.toNat < range.1 || range.2 < character.toNat

/-- A character between quotes. -/
def quotedChar (character : Char) : List Char :=
  match character with
  | '"' => ['\\', '"']
  | '\\' => ['\\', '\\']
  | '\t' => ['\\', 't']
  | '\n' => ['\\', 'n']
  | '\r' => ['\\', 'r']
  | '\x00' => ['\\', '0']
  | ' ' => [' ']
  | _ =>
      if isSeen character then [character]
      else ['\\', 'u', '\x7b'] ++ Nat.toDigits 16 character.toNat ++ ['\x7d']

/-- A text between quotes. -/
def quoted (text : String) : String :=
  String.ofList ('"' :: text.toList.flatMap quotedChar ++ ['"'])

end Text
end JarLedger
