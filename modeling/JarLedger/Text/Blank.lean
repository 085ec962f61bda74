/-!
# Blank characters

The characters with the Unicode property `White_Space`, and texts with such characters removed from
either end.
-/

namespace JarLedger
namespace Text

/-- Whether a character has the property `White_Space`. -/
def isBlank (character : Char) : Bool :=
  let code := character.toNat
  (9 ≤ code ∧ code ≤ 13) ∨ code = 0x20 ∨ code = 0x85 ∨ code = 0xA0 ∨ code = 0x1680 ∨
    (0x2000 ≤ code ∧ code ≤ 0x200A) ∨ code = 0x2028 ∨ code = 0x2029 ∨ code = 0x202F ∨
    code = 0x205F ∨ code = 0x3000

/-- The characters that satisfy a test removed from both ends. -/
def trimList (test : Char → Bool) (characters : List Char) : List Char :=
  ((characters.dropWhile test).reverse.dropWhile test).reverse

/-- Whether a text holds nothing but blanks. -/
def isAllBlank (text : String) : Bool := text.toList.all isBlank

end Text
end JarLedger
