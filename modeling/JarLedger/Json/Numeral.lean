import JarLedger.Json.Basic
import JarLedger.Text.Reader

/-!
# JSON numerals

A numeral without fraction and exponent is an integer if it fits a word.  For any other, the leading
digits are taken into one 64-bit significand until a further digit would not fit; the digits left
over are dropped, those before the point being counted in the power of ten.  The significand is then
rounded to a double, and multiplied or divided once by a rounded power of ten.  A result too large
for a finite double is refused, one too small is zero.
-/

namespace JarLedger
namespace Json
namespace Numeral

/-- Greatest significand. -/
def greatestSignificand : Nat := UInt64.size - 1

/-- Greatest power of ten that a double holds. -/
def greatestPower : Nat := 308

/-- Greatest exponent that is computed with. -/
def greatestExponent : Nat := Nat.pow 2 31 - 1

/-- Value of a decimal digit. -/
def digitValue (digit : Char) : Nat := digit.toNat - '0'.toNat

/-- A significand extended by digits as long as they fit, with the digits left. -/
def extend (limit significand : Nat) : List Char → Nat × List Char
  | [] => (significand, [])
  | digit :: rest =>
      let next := significand * 10 + digitValue digit
      if limit < next then (significand, digit :: rest) else extend limit next rest

/-- The power of ten as a double. -/
def power (exponent : Nat) : Binary64 := (Binary64.ofDecimal? false 1 exponent).getD default

/-- Divide by a power of ten, in steps of the greatest one. -/
def divideByPower (x : Binary64) (exponent : Nat) : Binary64 :=
  if exponent ≤ greatestPower then (x.div? (power exponent)).getD default
  else if x.isZero then x
  else divideByPower ((x.div? (power greatestPower)).getD default) (exponent - greatestPower)
termination_by exponent
decreasing_by simp only [greatestPower] at *; omega

/-- The double of a significand and a power of ten, unless it is too large. -/
def assemble? (significand : Nat) (exponent : Int) : Option Binary64 := do
  let rounded ← Binary64.ofNat? significand
  if exponent < 0 then return divideByPower rounded exponent.natAbs
  if exponent.natAbs ≤ greatestPower then rounded.mul? (power exponent.natAbs)
  else if rounded.isZero then return rounded
  else none

/-- The parts of a numeral as written. -/
structure Parts where
  /-- Digits before the point. -/
  whole : List Char
  /-- Digits after the point, if there is one. -/
  fraction : Option (List Char)
  /-- Whether the exponent is negative, and its digits, if there is one. -/
  exponent : Option (Bool × List Char)

/-- Magnitude of a numeral that is read as a double. -/
def Parts.double? (parts : Parts) : Option Binary64 :=
  let whole := extend greatestSignificand 0 parts.whole
  let fraction := parts.fraction.getD []
  let full := extend greatestSignificand whole.1 fraction
  let point : Int := (whole.2.length : Int) - ((fraction.length : Int) - full.2.length)
  match parts.exponent with
  | none => assemble? full.1 point
  | some (negative, digits) =>
      let exponent := extend greatestExponent 0 digits
      if exponent.2.isEmpty then
        assemble? full.1 (if negative then point - exponent.1 else point + exponent.1)
      else if full.1 = 0 ∨ negative then some (Binary64.zero false)
      else none

/-- The number that a numeral denotes. -/
def Parts.number? (negative : Bool) (parts : Parts) : Option Number :=
  let whole := extend greatestSignificand 0 parts.whole
  let signed (magnitude : Binary64) : Number :=
    .double (if negative then magnitude.neg else magnitude)
  if parts.fraction.isNone ∧ parts.exponent.isNone ∧ whole.2.isEmpty then
    if !negative then some (.integer whole.1)
    else if 0 < whole.1 ∧ whole.1 ≤ Nat.pow 2 63 then some (.integer (-whole.1))
    else (Binary64.ofNat? whole.1).map signed
  else parts.double?.map signed

/-- The digits at the front of a text, of which there is at least one. -/
def digits? (text : List Char) : Option (List Char × List Char) :=
  let digits := text.takeWhile Char.isDigit
  if digits.isEmpty then none else some (digits, text.dropWhile Char.isDigit)

theorem leaves_digits? (text : List Char) : Text.Leaves text.length (digits? text) := by
  intro digits rest read
  simp only [digits?] at read
  split at read
  · cases read
  · next present =>
    obtain ⟨_, rfl⟩ := Prod.mk.inj (Option.some.inj read)
    exact Text.length_dropWhile_lt fun empty => present (List.isEmpty_iff.mpr empty)

/-- The digits before the point: a zero stands alone. -/
def whole? (text : List Char) : Option (List Char × List Char) := do
  let (digits, rest) ← digits? text
  match digits with
  | '0' :: _ :: _ => none
  | _ => some (digits, rest)

theorem leaves_whole? (text : List Char) : Text.Leaves text.length (whole? text) := by
  refine Text.leaves_bind (leaves_digits? text) fun digits rest left => ?_
  dsimp only
  split
  · exact Text.leaves_none
  · exact Text.leaves_some left

/-- The fraction, if there is one. -/
def fraction? : List Char → Option (Option (List Char) × List Char)
  | '.' :: text => (digits? text).map fun (digits, rest) => (some digits, rest)
  | text => some (none, text)

theorem leaves_fraction? {limit : Nat} {text : List Char} (short : text.length < limit) :
    Text.Leaves limit (fraction? text) := by
  unfold fraction?
  split
  · refine Text.leaves_map (fun _ => rfl) ((leaves_digits? _).mono ?_)
    rw [List.length_cons] at short
    omega
  · exact Text.leaves_some short

/-- The exponent, if there is one. -/
def exponent? : List Char → Option (Option (Bool × List Char) × List Char)
  | mark :: text =>
      if mark = 'e' ∨ mark = 'E' then
        match text with
        | '-' :: text => (digits? text).map fun (digits, rest) => (some (true, digits), rest)
        | '+' :: text => (digits? text).map fun (digits, rest) => (some (false, digits), rest)
        | text => (digits? text).map fun (digits, rest) => (some (false, digits), rest)
      else some (none, mark :: text)
  | [] => some (none, [])

theorem leaves_exponent? {limit : Nat} {text : List Char} (short : text.length < limit) :
    Text.Leaves limit (exponent? text) := by
  unfold exponent?
  split
  · rw [List.length_cons] at short
    split
    · split
      · refine Text.leaves_map (fun _ => rfl) ((leaves_digits? _).mono ?_)
        rw [List.length_cons] at short
        omega
      · refine Text.leaves_map (fun _ => rfl) ((leaves_digits? _).mono ?_)
        rw [List.length_cons] at short
        omega
      · exact Text.leaves_map (fun _ => rfl) ((leaves_digits? _).mono (by omega))
    · exact Text.leaves_some short
  · exact Text.leaves_some short

/-- The number at the front of a text. -/
def read? (text : List Char) : Option (Number × List Char) := do
  let negative := text.head? = some '-'
  let (whole, text) ← whole? (if negative then text.tail else text)
  let (fraction, text) ← fraction? text
  let (exponent, text) ← exponent? text
  let number ← Parts.number? negative ⟨whole, fraction, exponent⟩
  return (number, text)

theorem leaves_read? (text : List Char) : Text.Leaves text.length (read? text) := by
  have shorter : (if text.head? = some '-' then text.tail else text).length ≤ text.length := by
    split
    · rw [List.length_tail]
      omega
    · exact Nat.le_refl _
  unfold read?
  refine Text.leaves_bind ((leaves_whole? _).mono shorter) fun whole rest one => ?_
  refine Text.leaves_bind (leaves_fraction? one) fun fraction rest two => ?_
  refine Text.leaves_bind (leaves_exponent? two) fun exponent rest three => ?_
  dsimp only
  cases Parts.number? (text.head? = some '-') ⟨whole, fraction, exponent⟩ with
  | none => exact Text.leaves_none
  | some number => exact Text.leaves_some three

end Numeral
end Json
end JarLedger
