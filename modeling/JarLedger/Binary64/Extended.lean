import JarLedger.Binary64.Shortest
import JarLedger.Text.Whole

/-!
# Doubles with infinity

A double that may also be infinite or not a number, as the decimal numerals of settings denote it.
A numeral has an optional sign, digits on at least one side of an optional point, and an optional
exponent; `inf`, `infinity` and `nan` are words of any case.  Rounding is to nearest, so a numeral
too large for a finite double is infinite.
-/

namespace JarLedger

/-- A double of any kind. -/
inductive Extended where
  /-- A finite number. -/
  | finite (number : Binary64)
  /-- Infinity of a sign. -/
  | infinite (negative : Bool)
  /-- The result of an operation that has none. -/
  | notNumber
  deriving DecidableEq, Repr

namespace Extended

/-- The double nearest to `digits * 10 ^ power`. -/
def ofDecimal (negative : Bool) (digits : Nat) (power : Int) : Extended :=
  match Binary64.ofDecimal? negative digits power with
  | some number => .finite number
  | none => .infinite negative

/-- Whether a text starts with a minus sign, and the text after its sign, if it has one. -/
def sign : List Char → Bool × List Char
  | '-' :: text => (true, text)
  | '+' :: text => (false, text)
  | text => (false, text)

/-- Value of an exponent: none is zero. -/
def exponent? : List Char → Option Int
  | [] => some 0
  | mark :: text => if mark = 'e' ∨ mark = 'E' then Text.integer? text else none

/-- The double of an unsigned numeral with the sign given apart. -/
def ofNumeral? (negative : Bool) (text : List Char) : Option Extended := do
  let whole := text.takeWhile Char.isDigit
  let rest := text.dropWhile Char.isDigit
  let rest := if rest.head? = some '.' then rest else '.' :: rest
  let fraction := rest.tail.takeWhile Char.isDigit
  let exponent ← exponent? (rest.tail.dropWhile Char.isDigit)
  let digits ← Text.natural? (whole ++ fraction)
  return ofDecimal negative digits (exponent - fraction.length)

/-- The double that a text denotes. -/
def ofText? (text : String) : Option Extended :=
  let (negative, text) := sign text.toList
  match String.ofList (text.map Char.toLower) with
  | "inf" | "infinity" => some (.infinite negative)
  | "nan" => some .notNumber
  | _ => ofNumeral? negative text

/-- Whether the number is zero of either sign. -/
def isZero : Extended → Bool
  | .finite number => number.isZero
  | _ => false

/-- Nearest natural number up to a greatest one, a half rounded up; what is below zero, or not a
number, is zero. -/
def toNatUpTo (greatest : Nat) : Extended → Nat
  | .finite number => if number.negative then 0 else min number.roundAway greatest
  | .infinite negative => if negative then 0 else greatest
  | .notNumber => 0

/-- Text without an exponent and without an empty fraction. -/
def text : Extended → String
  | .finite number => number.plainText
  | .infinite negative => if negative then "-inf" else "inf"
  | .notNumber => "NaN"

end Extended
end JarLedger
