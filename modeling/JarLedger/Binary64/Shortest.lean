import JarLedger.Binary64.Basic

/-!
# Shortest decimal text of a double

`Binary64.shortest` finds the fewest decimal digits that read back as the same double.  The reals
that round to a double form an interval around it; on each decimal grid, from the coarsest on, only
the two neighbours of the number can be the first grid point inside that interval, and of two hits
the nearer is taken.  `positional` and `scientific` lay the digits out.
-/

namespace JarLedger

/-- An unsigned decimal number `digits * 10 ^ power`. -/
structure Decimal where
  /-- The significant digits read as one number. -/
  digits : Nat
  /-- Power of ten of the last digit. -/
  power : Int
  deriving DecidableEq, Repr

namespace Binary64

/-- The point of the decimal grid `10 ^ power` that reads back as `x`, if there is one: of the
neighbours of `x`, the nearer one inside the interval that rounds to `x`. -/
def gridPoint? (x : Binary64) (power : Int) : Option Nat :=
  let below := if x.mantissa = Nat.pow 2 52 ∧ leastExponent < x.exponent then 1 else 2
  let fraction := shiftFraction 1 1 (x.exponent - 2)
  let scale := if 0 ≤ power then 1 else Nat.pow 10 (-power).toNat
  let step := fraction.2 * if 0 ≤ power then Nat.pow 10 power.toNat else 1
  let centre := 4 * x.mantissa * fraction.1 * scale
  let low := (4 * x.mantissa - below) * fraction.1 * scale
  let high := (4 * x.mantissa + 2) * fraction.1 * scale
  let even := x.mantissa % 2 = 0
  let inside (point : Nat) : Bool :=
    if even then low ≤ point * step ∧ point * step ≤ high
    else low < point * step ∧ point * step < high
  let floor := centre / step
  let hitFloor := floor ≠ 0 ∧ inside floor
  let hitNext := inside (floor + 1)
  if hitFloor ∧ (!hitNext ∨ centre - floor * step ≤ (floor + 1) * step - centre) then some floor
  else if hitNext then some (floor + 1)
  else none

/-- A power of ten above which no grid has a point near `x`. -/
def topPower (x : Binary64) : Int :=
  ((x.mantissa.log2 : Int) + x.exponent) * 30103 / 100000 + 2

/-- The fewest digits that read back as the magnitude of `x`. -/
def shortest (x : Binary64) : Decimal :=
  if x.isZero then ⟨0, 0⟩
  else
    let hit := (List.range 32).findSome? fun (place : Nat) =>
      let power := x.topPower - place
      (x.gridPoint? power).map fun digits => Decimal.mk digits power
    hit.getD ⟨x.mantissa, 0⟩

end Binary64

namespace Decimal

/-- Decimal digits of the number without the power. -/
def figures (decimal : Decimal) : List Char := Nat.toDigits 10 decimal.digits

/-- Digits before the point when the number is written without an exponent; may be negative. -/
def pointPlace (decimal : Decimal) : Int := decimal.figures.length + decimal.power

/-- Written without an exponent: zeros fill the places up to the point on either side, and a
fraction appears only if there is one. -/
def positional (decimal : Decimal) : String :=
  let figures := decimal.figures
  let place := decimal.pointPlace
  if 0 ≤ decimal.power then
    String.ofList (figures ++ List.replicate decimal.power.toNat '0')
  else if 0 < place then
    String.ofList (figures.take place.toNat ++ '.' :: figures.drop place.toNat)
  else String.ofList ('0' :: '.' :: (List.replicate (-place).toNat '0' ++ figures))

/-- Written with one digit before the point and a signed exponent. -/
def scientific (decimal : Decimal) : String :=
  let exponent := decimal.pointPlace - 1
  let sign := if exponent < 0 then "-" else "+"
  let mantissa := match decimal.figures with
    | [] => []
    | [lone] => [lone]
    | first :: rest => first :: '.' :: rest
  String.ofList mantissa ++ "e" ++ sign ++ toString exponent.natAbs

end Decimal

namespace Binary64

/-- Text without an exponent and without an empty fraction. -/
def plainText (x : Binary64) : String :=
  (if x.negative then "-" else "") ++ x.shortest.positional

/-- Text in which a number of at most sixteen digits before the point, and of at most four zeros
after it, is positional with a fraction; any other has an exponent. -/
def text (x : Binary64) : String :=
  let decimal := x.shortest
  let place := decimal.pointPlace
  let body :=
    if -5 < place ∧ place ≤ 16 then
      if 0 ≤ decimal.power then decimal.positional ++ ".0" else decimal.positional
    else decimal.scientific
  (if x.negative then "-" else "") ++ body

end Binary64
end JarLedger
