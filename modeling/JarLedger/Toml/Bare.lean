import JarLedger.Text.Reader
import JarLedger.Text.Whole
import JarLedger.Toml.Moment

/-!
# TOML values without marks

Truth values, numbers and moments stand without quotes or brackets.  An underscore may stand between
two digits.  An integer is decimal without leading zeros, or hexadecimal, octal or binary without a
sign, and fits a signed word of sixty-four bits.
-/

namespace JarLedger
namespace Toml
namespace Bare

/-- The digits of a text in which single underscores may stand between digits. -/
def ungroup? (isFigure : Char → Bool) : List Char → Option (List Char)
  | [] => none
  | [figure] => if isFigure figure then some [figure] else none
  | figure :: '_' :: rest =>
      if isFigure figure then (ungroup? isFigure rest).map (figure :: ·) else none
  | figure :: rest =>
      if isFigure figure then (ungroup? isFigure rest).map (figure :: ·) else none

/-- The digits of a whole decimal number: a zero that comes first stands alone. -/
def whole? (text : List Char) : Option (List Char) :=
  match ungroup? Char.isDigit text with
  | some ('0' :: _ :: _) => none
  | digits => digits

/-- Value of a digit of any base up to sixteen. -/
def figureValue (figure : Char) : Nat :=
  if figure.isDigit then figure.toNat - '0'.toNat else figure.toLower.toNat - 'a'.toNat + 10

/-- Whether a character is a digit of a base. -/
def isFigureOf (base : Nat) (figure : Char) : Bool := figure.isAlphanum && figureValue figure < base

/-- The number that grouped digits of a base spell. -/
def natural? (base : Nat) (text : List Char) : Option Nat :=
  (ungroup? (isFigureOf base) text).map
    (List.foldl (fun (number : Nat) figure => number * base + figureValue figure) 0)

/-- The integer that a text spells. -/
def integer? (text : List Char) : Option Int := do
  let number : Int ←
    match text with
    | '0' :: 'x' :: figures => (natural? 16 figures).map Int.ofNat
    | '0' :: 'o' :: figures => (natural? 8 figures).map Int.ofNat
    | '0' :: 'b' :: figures => (natural? 2 figures).map Int.ofNat
    | text => do
        let (negative, text) := Extended.sign text
        let number ← Text.natural? (← whole? text)
        return if negative then -(number : Int) else number
  if Text.fitsSigned 64 number then some number else none

/-- Value of an exponent with its mark. -/
def exponent? : List Char → Option Int
  | [] => some 0
  | _ :: text => do
      let (negative, text) := Extended.sign text
      let number ← Text.natural? (← ungroup? Char.isDigit text)
      return if negative then -(number : Int) else number

/-- Whether a character begins an exponent. -/
def isExponentMark (character : Char) : Bool := character = 'e' || character = 'E'

/-- The number that a text with a fraction, an exponent or both spells; one too large is refused
unless it is negative. -/
def decimal? (negative : Bool) (text : List Char) : Option Extended := do
  if !text.any fun character => character = '.' || isExponentMark character then none
  let mantissa := text.takeWhile fun character => !isExponentMark character
  let exponent ← exponent? (text.dropWhile fun character => !isExponentMark character)
  let whole ← whole? (mantissa.takeWhile fun character => character ≠ '.')
  let fraction ←
    match mantissa.dropWhile fun character => character ≠ '.' with
    | [] => some []
    | _ :: text => ungroup? Char.isDigit text
  let digits ← Text.natural? (whole ++ fraction)
  match Extended.ofDecimal negative digits (exponent - fraction.length) with
  | .infinite false => none
  | number => some number

/-- The number that a text spells if it is not an integer. -/
def real? (text : List Char) : Option Extended :=
  let (negative, text) := Extended.sign text
  match text with
  | ['i', 'n', 'f'] => some (.infinite negative)
  | ['n', 'a', 'n'] => some .notNumber
  | text => decimal? negative text

/-- The value that a text spells. -/
def read? (text : List Char) : Option Value :=
  match text with
  | ['t', 'r', 'u', 'e'] => some (.flag true)
  | ['f', 'a', 'l', 's', 'e'] => some (.flag false)
  | text =>
      (integer? text).map Value.integer <|> (real? text).map Value.real <|>
        (Moment.read? text).map Value.moment

/-- Whether a character can be part of a value without marks. -/
def isPart (character : Char) : Bool :=
  character.isAlphanum || character = '+' || character = '-' || character = '_' ||
    character = '.' || character = ':'

/-- The value without marks at the front of a text.  A date takes in the time after a space. -/
def value? (text : List Char) : Option (Value × List Char) :=
  let word := text.takeWhile isPart
  let rest := text.dropWhile isPart
  match Moment.date? word, rest with
  | some (_, []), ' ' :: after =>
      if (after.head?.map Char.isDigit).getD false then
        (read? (word ++ ' ' :: after.takeWhile isPart)).map fun value =>
          (value, after.dropWhile isPart)
      else (read? word).map fun value => (value, rest)
  | _, _ => (read? word).map fun value => (value, rest)

/-- Nothing is no value. -/
theorem read?_nil : read? [] = none := by
  decide

theorem leaves_value? (text : List Char) : Text.Leaves text.length (value? text) := by
  by_cases empty : text.takeWhile isPart = []
  · have date : Moment.date? [] = none := by decide
    simp only [value?, empty, date, read?_nil]
    exact Text.leaves_none
  · have shorter := Text.length_dropWhile_lt empty
    unfold value?
    dsimp only
    split
    · next after _ spaced =>
      split
      · refine Text.leaves_pair fun _ => ?_
        have rest := Text.length_dropWhile_le isPart after
        rw [spaced, List.length_cons] at shorter
        dsimp only
        omega
      · exact Text.leaves_pair fun _ => shorter
    · exact Text.leaves_pair fun _ => shorter

end Bare
end Toml
end JarLedger
