import JarLedger.Bytes.Utf8
import JarLedger.Url.Percent
import JarLedger.Url.Punycode

/-!
# Domain names

A domain name in ASCII: letters in lower case, characters that have a plainer equal replaced by it,
invisible ones left out, and labels beyond ASCII in Punycode behind `xn--`.  Characters that would
end the name in an address, controls, and characters without a fixed meaning are refused.
-/

namespace JarLedger
namespace Domain

/-- What becomes of a character of a domain name. -/
inductive Standing where
  /-- It stays. -/
  | kept
  /-- It is left out. -/
  | dropped
  /-- It is another spelling of a character. -/
  | replaced (character : Char)
  /-- It has no place in a name. -/
  | refused
  /-- It stays behind a sign that suppresses a vowel, and has no place elsewhere. -/
  | joining
  deriving DecidableEq

/-- ASCII characters that end a name in an address or mean something there. -/
def delimiters : List Char := " %#/:<>?@[\\]^|".toList

/-- Whether a number lies in one of some ranges. -/
def within (ranges : List (Nat × Nat)) (code : Nat) : Bool :=
  ranges.any fun (range : Nat × Nat) => range.1 ≤ code ∧ code ≤ range.2

/-- Code points that are left out. -/
def droppedRanges : List (Nat × Nat) :=
  [(0xAD, 0xAD), (0x34F, 0x34F), (0x180B, 0x180D), (0x180F, 0x180F), (0x200B, 0x200B),
    (0x2060, 0x2060), (0x2064, 0x2064), (0xFE00, 0xFE0F), (0xFEFF, 0xFEFF), (0x1BCA0, 0x1BCA3),
    (0xE0100, 0xE01EF)]

/-- Code points without a place in a name: controls, spaces, marks of direction, private ones and
those that are no characters. -/
def refusedRanges : List (Nat × Nat) :=
  [(0x80, 0xA0), (0xA8, 0xA8), (0xAF, 0xAF), (0xB4, 0xB4), (0xB8, 0xB8), (0x1680, 0x1680),
    (0x2000, 0x200A), (0x200E, 0x200F), (0x2028, 0x202F), (0x205F, 0x205F), (0x2061, 0x2063),
    (0x2065, 0x206F), (0x2FF0, 0x3000), (0xE000, 0xF8FF), (0xFDD0, 0xFDEF), (0xFFF0, 0xFFFF),
    (0x1FFFE, 0x1FFFF), (0x2FFFE, 0x2FFFF), (0x3FFFE, 0xE00FF), (0xE01F0, 0x10FFFF)]

/-- Ranges of capitals, and how far behind them their small letters lie. -/
def capitalRanges : List (Nat × Nat × Nat) :=
  [(0xC0, 0xD6, 32), (0xD8, 0xDE, 32), (0x388, 0x38A, 37), (0x38E, 0x38F, 63),
    (0x391, 0x3A1, 32), (0x3A3, 0x3AB, 32), (0x386, 0x386, 38), (0x38C, 0x38C, 64),
    (0x400, 0x40F, 80), (0x410, 0x42F, 32), (0x531, 0x556, 48), (0x10400, 0x10427, 40)]

/-- Ranges in which every capital of even code is followed by its small letter. -/
def evenCapitals : List (Nat × Nat) :=
  [(0x100, 0x12F), (0x132, 0x137), (0x14A, 0x177), (0x460, 0x481), (0x48A, 0x4BF),
    (0x4D0, 0x52F), (0x1E00, 0x1E95), (0x1EA0, 0x1EFF)]

/-- Ranges in which every capital of odd code is followed by its small letter. -/
def oddCapitals : List (Nat × Nat) := [(0x139, 0x148), (0x179, 0x17E), (0x4C1, 0x4CE)]

/-- Characters with an equal that none of the ranges gives. -/
def equals : List (Nat × Char) :=
  [(0xAA, 'a'), (0xB2, '2'), (0xB3, '3'), (0xB5, 'μ'), (0xB9, '1'), (0xBA, 'o'), (0x178, 'ÿ'),
    (0x17F, 's'), (0x1E9E, 'ß'), (0x2126, 'ω'), (0x212A, 'k'), (0x212B, 'å'), (0x3002, '.'),
    (0xFF0E, '.'), (0xFF61, '.')]

/-- The small letter of a capital. -/
def small? (code : Nat) : Option Char :=
  match capitalRanges.find? fun range => range.1 ≤ code ∧ code ≤ range.2.1 with
  | some range => some (Char.ofNat (code + range.2.2))
  | none =>
      if within evenCapitals code ∧ code % 2 = 0 ∨ within oddCapitals code ∧ code % 2 = 1 then
        some (Char.ofNat (code + 1))
      else none

/-- What becomes of an ASCII character. -/
def asciiStanding (character : Char) : Standing :=
  if character.toNat < 0x20 ∨ character.toNat = 0x7F ∨ character ∈ delimiters then .refused
  else if character.isUpper then .replaced character.toLower
  else .kept

/-- What becomes of a character beyond ASCII. -/
def wideStanding (code : Nat) : Standing :=
  if code = 0x200C ∨ code = 0x200D then .joining
  else if within droppedRanges code then .dropped
  else
    match equals.lookup code with
    | some character => .replaced character
    | none =>
        match small? code with
        | some character => .replaced character
        | none => if within refusedRanges code then .refused else .kept

/-- What becomes of a character. -/
def standing (character : Char) : Standing :=
  let code := character.toNat
  if code < 0x80 then asciiStanding character
  else if 0xFF01 ≤ code ∧ code ≤ 0xFF5E ∧ code ≠ 0xFF0E then
    match asciiStanding (Char.ofNat (code - 0xFEE0)) with
    | .kept => .replaced (Char.ofNat (code - 0xFEE0))
    | outcome => outcome
  else wideStanding code

/-- Signs that suppress a vowel. -/
def viramas : List Nat :=
  [0x94D, 0x9CD, 0xA4D, 0xACD, 0xB4D, 0xBCD, 0xC4D, 0xCCD, 0xD4D, 0xDCA, 0xE3A, 0xF84, 0x1039]

/-- The characters of a name in their plain form; `before` is the character in front. -/
def plain? (before : Nat) : List Char → Option (List Char)
  | [] => some []
  | character :: rest =>
      match standing character with
      | .kept => (plain? character.toNat rest).map (character :: ·)
      | .dropped => plain? before rest
      | .replaced other => (plain? other.toNat rest).map (other :: ·)
      | .refused => none
      | .joining =>
          if before ∈ viramas then (plain? character.toNat rest).map (character :: ·) else none

/-- Marks that stand on the character in front of them. -/
def isMark (character : Char) : Bool :=
  within [(0x300, 0x36F), (0x483, 0x489), (0x1AB0, 0x1AFF), (0x1DC0, 0x1DFF), (0x20D0, 0x20FF),
    (0xFE20, 0xFE2F)] character.toNat

/-- Whether a label is one beyond ASCII that stands for itself. -/
def isWide (label : List Char) : Bool :=
  label.any fun character => 0x80 ≤ character.toNat

/-- Whether a plain label can begin as it does. -/
def beginsWell (label : List Char) : Bool := !label.head?.any isMark

/-- What a label in Punycode begins with. -/
def marker : List Char := "xn--".toList

/-- A plain label in ASCII.  A label that is in Punycode already has to stand for a plain one. -/
def labelToAscii? (label : List Char) : Option (List Char) :=
  if isWide label then
    if beginsWell label then some (marker ++ Punycode.encode label) else none
  else if marker.isPrefixOf label then
    match Punycode.decode? (label.drop marker.length) with
    | some meant =>
        if isWide meant ∧ beginsWell meant ∧ plain? 0 meant = some meant then some label else none
    | none => none
  else some label

/-- The labels of a name. -/
def labels (name : List Char) : List (List Char) :=
  name.splitOnP fun character => character = '.'

/-- A name in ASCII. -/
def toAscii? (name : List Char) : Option (List Char) := do
  let plain ← plain? 0 name
  let ascii ← (labels plain).mapM labelToAscii?
  return List.intercalate ['.'] ascii

/-- The name in ASCII that the text in an address stands for; it is not empty. -/
def ofText? (text : List Char) : Option (List Char) := do
  let name ← Utf8.decode? (Percent.decode text)
  let ascii ← toAscii? name.toList
  if ascii.isEmpty then none else some ascii

end Domain
end JarLedger
