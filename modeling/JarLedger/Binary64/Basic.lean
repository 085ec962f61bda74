/-!
# Finite binary64 numbers in exact arithmetic

A finite double is a sign, a mantissa below `2⁵³` and an exponent of two.  Every operation computes
the exact quotient of natural numbers and rounds it once, to nearest with ties to an even mantissa,
so nothing here depends on the machine's floating-point unit.
-/

namespace JarLedger

/-- A finite double: `mantissa * 2 ^ exponent`, with a sign that zero has too. -/
structure Binary64 where
  /-- Whether the number is written with a minus sign. -/
  negative : Bool
  /-- Integer below `2⁵³`; at least `2⁵²` unless the exponent is the least one. -/
  mantissa : Nat
  /-- Power of two, from `-1074` to `971`. -/
  exponent : Int
  deriving DecidableEq, Repr

namespace Binary64

/-- Least exponent of a double. -/
def leastExponent : Int := -1074

/-- Greatest exponent of a finite double. -/
def greatestExponent : Int := 971

/-- Zero of a sign. -/
def zero (negative : Bool) : Binary64 := ⟨negative, 0, leastExponent⟩

instance : Inhabited Binary64 := ⟨zero false⟩

/-- Whether the number is zero of either sign. -/
def isZero (x : Binary64) : Bool := x.mantissa = 0

/-- The number with the other sign. -/
def neg (x : Binary64) : Binary64 := { x with negative := !x.negative }

/-- Quotient rounded to the nearest natural number, a half to the even one. -/
def roundQuotient (numerator denominator : Nat) : Nat :=
  let quotient := numerator / denominator
  let twice := 2 * (numerator % denominator)
  if twice < denominator then quotient
  else if denominator < twice then quotient + 1
  else quotient + quotient % 2

/-- A fraction multiplied by a power of two of either sign. -/
def shiftFraction (numerator denominator : Nat) (exponent : Int) : Nat × Nat :=
  if 0 ≤ exponent then (numerator * Nat.pow 2 exponent.toNat, denominator)
  else (numerator, denominator * Nat.pow 2 (-exponent).toNat)

/-- The double nearest to a fraction, or none if it is too large for a finite one. -/
def round? (negative : Bool) (numerator denominator : Nat) : Option Binary64 :=
  if numerator = 0 then some (zero negative)
  else
    let guess : Int := (numerator.log2 : Int) - denominator.log2 - 52
    let scaled := shiftFraction numerator denominator (-guess)
    let fitted := if scaled.1 / scaled.2 < Nat.pow 2 52 then guess - 1 else guess
    let exponent := max fitted leastExponent
    let scaled := shiftFraction numerator denominator (-exponent)
    let mantissa := roundQuotient scaled.1 scaled.2
    let carried := mantissa = Nat.pow 2 53
    let exponent := if carried then exponent + 1 else exponent
    let mantissa := if carried then Nat.pow 2 52 else mantissa
    if greatestExponent < exponent then none else some ⟨negative, mantissa, exponent⟩

/-- The double nearest to a natural number. -/
def ofNat? (number : Nat) : Option Binary64 := round? false number 1

/-- Rounded product. -/
def mul? (x y : Binary64) : Option Binary64 :=
  let product := shiftFraction (x.mantissa * y.mantissa) 1 (x.exponent + y.exponent)
  round? (x.negative != y.negative) product.1 product.2

/-- Rounded quotient of a number by one that is not zero. -/
def div? (x y : Binary64) : Option Binary64 :=
  let quotient := shiftFraction x.mantissa y.mantissa (x.exponent - y.exponent)
  round? (x.negative != y.negative) quotient.1 quotient.2

/-- The double nearest to `digits * 10 ^ power`, or none if that is too large.  Powers so far out
that the size of the result is settled are answered without computing them. -/
def ofDecimal? (negative : Bool) (digits : Nat) (power : Int) : Option Binary64 :=
  if digits = 0 then some (zero negative)
  else
    let magnitude : Int := (digits.log2 : Int) + 1
    if 400 < power then none
    else if power < -400 - magnitude then some (zero negative)
    else if 0 ≤ power then round? negative (digits * Nat.pow 10 power.toNat) 1
    else round? negative digits (Nat.pow 10 (-power).toNat)

/-- Greatest integer at most the magnitude, and whether the fraction left is at least a half. -/
def integerPart (x : Binary64) : Nat × Bool :=
  let fraction := shiftFraction x.mantissa 1 x.exponent
  (fraction.1 / fraction.2, fraction.2 ≤ 2 * (fraction.1 % fraction.2))

/-- Nearest integer to the magnitude, a half away from zero. -/
def roundAway (x : Binary64) : Nat :=
  let part := x.integerPart
  if part.2 then part.1 + 1 else part.1

end Binary64
end JarLedger
