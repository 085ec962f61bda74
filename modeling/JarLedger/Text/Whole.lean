/-!
# Whole numbers in decimal

Reading the decimal spelling of an integer: an optional sign, then one or more digits and nothing
else.
-/

namespace JarLedger
namespace Text

/-- The number that a list of decimal digits spells. -/
def natural? (digits : List Char) : Option Nat :=
  if digits.isEmpty ∨ !digits.all Char.isDigit then none
  else some (digits.foldl (fun number digit => number * 10 + (digit.toNat - '0'.toNat)) 0)

/-- The number that a signed list of decimal digits spells. -/
def integer? : List Char → Option Int
  | '-' :: digits => (natural? digits).map fun number => -(number : Int)
  | '+' :: digits => (natural? digits).map Int.ofNat
  | digits => (natural? digits).map Int.ofNat

/-- A number in at least so many digits, filled with zeros on the left. -/
def padded (width number : Nat) : String :=
  let figures := Nat.toDigits 10 number
  String.ofList (List.replicate (width - figures.length) '0' ++ figures)

/-- Whether an integer fits a signed word of so many bits. -/
def fitsSigned (bits : Nat) (number : Int) : Bool :=
  -(Int.pow 2 (bits - 1)) ≤ number ∧ number < Int.pow 2 (bits - 1)

end Text
end JarLedger
