/-!
# Small letters

Capital letters made small as far as the result is ASCII: besides the Latin capitals, the Kelvin
sign has an ASCII small letter.  Every other character is left as it is, which no comparison with an
ASCII word can tell.
-/

namespace JarLedger
namespace Text

/-- A character as a small letter, if that is ASCII. -/
def lowerChar (character : Char) : Char :=
  if character = '\u212a' then 'k' else character.toLower

/-- A text in small letters. -/
def lower (text : String) : String := String.ofList (text.toList.map lowerChar)

end Text
end JarLedger
