import JarLedger.Json.Basic
import JarLedger.Bytes.Hex

/-!
# Writing JSON

The compact form: no blanks, members in the order in which they are listed, doubles in the fewest
digits that read back.  In strings, quotes, backslashes and control characters are escaped and
everything else stands as it is.  The wide form differs in its blanks only: every item stands on a
line of its own, two blanks further in than what it is part of.
-/

namespace JarLedger
namespace Json

/-- A character inside a string. -/
def quoteChar (character : Char) : List Char :=
  match character with
  | '"' => ['\\', '"']
  | '\\' => ['\\', '\\']
  | '\x08' => ['\\', 'b']
  | '\t' => ['\\', 't']
  | '\n' => ['\\', 'n']
  | '\x0c' => ['\\', 'f']
  | '\r' => ['\\', 'r']
  | _ =>
      if character < ' ' then
        ['\\', 'u', '0', '0', Hex.digit (character.toNat / 16), Hex.digit (character.toNat % 16)]
      else [character]

/-- A string between quotes. -/
def quote (text : String) : String :=
  String.ofList ('"' :: text.toList.flatMap quoteChar ++ ['"'])

/-- Text of a number. -/
def Number.text : Number → String
  | .integer value => toString value
  | .double value => value.text

mutual

/-- Compact text of a value. -/
def text : Json → String
  | .null => "null"
  | .bool value => if value then "true" else "false"
  | .number value => value.text
  | .string value => quote value
  | .array items => "[" ++ String.intercalate "," (texts items) ++ "]"
  | .object members => "\x7b" ++ String.intercalate "," (memberTexts members) ++ "\x7d"

/-- Compact texts of the items of an array. -/
def texts : List Json → List String
  | [] => []
  | item :: rest => item.text :: texts rest

/-- Compact texts of the members of an object. -/
def memberTexts : List (String × Json) → List String
  | [] => []
  | (name, value) :: rest => (quote name ++ ":" ++ value.text) :: memberTexts rest

end

/-- A line break, and blanks in front of the next line. -/
def lineBreak (depth : Nat) : String := String.ofList ('\n' :: List.replicate (2 * depth) ' ')

/-- Parts between marks, one to a line. -/
def layOut (opening closing : String) (depth : Nat) (parts : List String) : String :=
  if parts.isEmpty then opening ++ closing
  else
    opening ++ lineBreak (depth + 1) ++ String.intercalate ("," ++ lineBreak (depth + 1)) parts ++
      lineBreak depth ++ closing

mutual

/-- Text of a value with one item to a line, inside so many others. -/
def wideText (depth : Nat) : Json → String
  | .array items => layOut "[" "]" depth (wideTexts (depth + 1) items)
  | .object members => layOut "\x7b" "\x7d" depth (wideMemberTexts (depth + 1) members)
  | value => value.text

/-- Texts of the items of an array, with one part to a line. -/
def wideTexts (depth : Nat) : List Json → List String
  | [] => []
  | item :: rest => wideText depth item :: wideTexts depth rest

/-- Texts of the members of an object, with one part to a line. -/
def wideMemberTexts (depth : Nat) : List (String × Json) → List String
  | [] => []
  | (name, value) :: rest =>
      (quote name ++ ": " ++ wideText depth value) :: wideMemberTexts depth rest

end

end Json
end JarLedger
