import JarLedger.Tar.Header

/-!
# Extension records

Records that stand before an entry and describe it: lines of a length, a space, a keyword, an equals
sign and a value.  The length counts the whole line with its end.
-/

namespace JarLedger
namespace Tar

/-- A keyword and its value. -/
structure Extension where
  keyword : List UInt8
  value : List UInt8

namespace Extension

/-- The lines before the first empty one. -/
def lines (bytes : List UInt8) : List (List UInt8) :=
  (bytes.splitOn 0x0a).takeWhile fun line => !line.isEmpty

/-- The record of a line, if the line is well formed. -/
def ofLine? (line : List UInt8) : Option Extension := do
  let digits := line.takeWhile fun byte => byte ≠ 0x20
  let text ← Utf8.decode? digits
  let length ← unsigned? 10 text.toList
  let content := line.drop (digits.length + 1)
  let keyword := content.takeWhile fun byte => byte ≠ 0x3d
  if digits.length = line.length ∨ length ≠ line.length + 1 ∨ keyword.length = content.length then
    none
  else return ⟨keyword, content.drop (keyword.length + 1)⟩

/-- The bytes of an ASCII keyword. -/
def keywordBytes (keyword : String) : List UInt8 := Utf8.encode keyword

/-- Value of the first well-formed record of a keyword. -/
def value? (keyword : String) (bytes : List UInt8) : Option (List UInt8) :=
  (((lines bytes).filterMap ofLine?).find? fun record =>
    record.keyword = keywordBytes keyword).map Extension.value

/-- Number of the first record of a keyword, if no malformed record comes before it. -/
def number? (keyword : String) (bytes : List UInt8) : Option Nat := do
  let records := ((lines bytes).map ofLine?).takeWhile Option.isSome
  let record ← (records.filterMap id).find? fun record => record.keyword = keywordBytes keyword
  let text ← Utf8.decode? record.value
  unsigned? 10 text.toList

end Extension
end Tar
end JarLedger
