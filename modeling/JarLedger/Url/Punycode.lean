/-!
# Punycode

Labels of domain names beyond ASCII, written in letters, digits and hyphens: first the ASCII
characters, then, for every other character in ascending order, how many pairs of a code point and
a place lie between it and the one before, as a number of variable length in base thirty-six.
-/

namespace JarLedger
namespace Punycode

/-- First code point that is not written as itself. -/
def firstBeyond : Nat := 0x80

/-- Threshold of the digits until the first number is written. -/
def firstBias : Nat := 72

/-- The digit of a value below thirty-six. -/
def digit (value : Nat) : Char :=
  if value < 26 then Char.ofNat ('a'.toNat + value) else Char.ofNat ('0'.toNat + (value - 26))

/-- The value of a digit in either case. -/
def value? (character : Char) : Option Nat :=
  if character.isDigit then some (character.toNat - '0'.toNat + 26)
  else if character.isAlpha then some (character.toLower.toNat - 'a'.toNat)
  else none

/-- A digit below its threshold ends a number. -/
def threshold (position bias : Nat) : Nat :=
  if position ≤ bias then 1 else if bias + 26 ≤ position then 26 else position - bias

theorem threshold_pos (position bias : Nat) : 1 ≤ threshold position bias := by
  unfold threshold
  split
  · omega
  · split <;> omega

/-- Scale a distance down, with the positions that it takes. -/
def scale (distance position : Nat) : Nat × Nat :=
  if 455 < distance then scale (distance / 35) (position + 36) else (distance, position)
termination_by distance
decreasing_by omega

/-- The threshold that fits numbers like the one just met. -/
def adapt (distance places : Nat) (first : Bool) : Nat :=
  let damped := if first then distance / 700 else distance / 2
  let (rest, position) := scale (damped + damped / places) 0
  position + 36 * rest / (rest + 38)

/-- The digits of a number. -/
def writeNumber (bias position number : Nat) : List Char :=
  let limit := threshold position bias
  if number < limit then [digit number]
  else
    digit (limit + (number - limit) % (36 - limit)) ::
      writeNumber bias (position + 36) ((number - limit) / (36 - limit))
termination_by number
decreasing_by
  have positive := threshold_pos position bias
  exact Nat.lt_of_le_of_lt (Nat.div_le_self _ _) (by omega)

/-- A label on its way out. -/
structure Writer where
  /-- The digits written. -/
  digits : List Char
  /-- How many pairs of code point and place lie behind the character written last. -/
  distance : Nat
  /-- Threshold of the next number. -/
  bias : Nat
  /-- How many characters are written. -/
  done : Nat

/-- Pass over one character of the label while those of a code point are written. -/
def Writer.pass (basic code : Nat) (writer : Writer) (character : Char) : Writer :=
  if character.toNat < code then { writer with distance := writer.distance + 1 }
  else if character.toNat = code then
    { digits := writer.digits ++ writeNumber writer.bias 36 writer.distance
      distance := 0
      bias := adapt writer.distance (writer.done + 1) (writer.done = basic)
      done := writer.done + 1 }
  else writer

/-- Write the characters of each code point in turn. -/
def Writer.writeAll (label : List Char) (basic : Nat) : List Nat → Nat → Writer → Writer
  | [], _, writer => writer
  | code :: codes, next, writer =>
      let skipped := writer.distance + (code - next) * (writer.done + 1)
      let writer := label.foldl (Writer.pass basic code) { writer with distance := skipped }
      writeAll label basic codes (code + 1) { writer with distance := writer.distance + 1 }

/-- A label in Punycode. -/
def encode (label : List Char) : List Char :=
  let basic := label.filter fun character => character.toNat < firstBeyond
  let codes := (label.map Char.toNat).filter fun code => firstBeyond ≤ code
  let codes := (codes.mergeSort fun left right => left ≤ right).eraseReps
  let start : Writer := ⟨[], 0, firstBias, basic.length⟩
  let written := Writer.writeAll label basic.length codes firstBeyond start
  basic ++ (if basic.isEmpty then [] else ['-']) ++ written.digits

/-- Read a number on top of the one before, and the digits after it. -/
def readNumber? (bias : Nat) : List Char → (position weight number : Nat) → Option (Nat × List Char)
  | [], _, _, _ => none
  | character :: rest, position, weight, number =>
      match value? character with
      | none => none
      | some value =>
          let number := number + value * weight
          let limit := threshold position bias
          if value < limit then some (number, rest)
          else readNumber? bias rest (position + 36) (weight * (36 - limit)) number

theorem length_readNumber? {bias : Nat} {digits rest : List Char}
    {position weight number result : Nat}
    (found : readNumber? bias digits position weight number = some (result, rest)) :
    rest.length < digits.length := by
  induction digits generalizing position weight number with
  | nil => simp [readNumber?] at found
  | cons character digits ih =>
      simp only [readNumber?] at found
      split at found
      · exact absurd found (by simp)
      · split at found
        · simp only [Option.some.injEq, Prod.mk.injEq] at found
          rw [← found.2]
          exact Nat.lt_succ_self _
        · exact Nat.lt_succ_of_lt (ih found)

/-- Put in characters one after the other, until the digits end. -/
def insertAll? (digits label : List Char) (bias code place : Nat) : Option (List Char) :=
  if digits.isEmpty then some label
  else
    match _found : readNumber? bias digits 36 1 place with
    | none => none
    | some (number, rest) =>
        let places := label.length + 1
        let code := code + number / places
        if code.isValidChar then
          insertAll? rest (label.insertIdx (number % places) (Char.ofNat code))
            (adapt (number - place) places (place = 0)) code (number % places + 1)
        else none
termination_by digits.length
decreasing_by exact length_readNumber? _found

/-- The label that a text in Punycode stands for. -/
def decode? (text : List Char) : Option (List Char) :=
  let digits := (text.reverse.takeWhile fun character => character ≠ '-').reverse
  let basic := text.take (text.length - digits.length - 1)
  insertAll? digits basic firstBias firstBeyond 0

end Punycode
end JarLedger
