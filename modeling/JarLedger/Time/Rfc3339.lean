import JarLedger.Time.Instant
import JarLedger.Text.Blank
import JarLedger.Text.Whole

/-!
# Timestamps of RFC 3339

Reading takes the strict form: four digits of the year, `T`, `t` or a space before the clock, an
optional fraction of a second of which nine digits count, and a zone that is `Z`, `z` or a signed
hour and minute.  Second sixty is a leap second of any minute.  `ofLooseText?` reads more: blanks,
short numbers, and years beyond four digits.  Writing gives the instant in the zone `Z` with a
fraction of no, three, six or nine digits, the fewest that are exact.
-/

namespace JarLedger
namespace Instant

/-- The number of exactly so many digits at the front of a text. -/
def figures? (count : Nat) (text : List Char) : Option (Nat × List Char) := do
  let number ← Text.natural? (text.take count)
  if text.length < count then none else return (number, text.drop count)

/-- The text after a character that has to stand at its front. -/
def expect? (expected : Char) : List Char → Option (List Char)
  | character :: rest => if character = expected then some rest else none
  | [] => none

theorem length_expect? {expected : Char} {text rest : List Char}
    (found : expect? expected text = some rest) : rest.length < text.length := by
  unfold expect? at found
  split at found
  · split at found
    · obtain rfl := Option.some.inj found
      exact Nat.lt_succ_self _
    · cases found
  · cases found

/-- Nanoseconds of the fraction at the front of a text, if there is one. -/
def fraction? : List Char → Option (Nat × List Char)
  | '.' :: text => do
      let digits := text.takeWhile Char.isDigit
      let number ← Text.natural? ((digits ++ List.replicate 9 '0').take 9)
      if digits.isEmpty then none else return (number, text.dropWhile Char.isDigit)
  | text => some (0, text)

/-- Seconds that the zone at the front of a text lies east of zone zero; `between` takes what
stands between its hour and its minute. -/
def zone? (between : List Char → Option (List Char)) : List Char → Option (Int × List Char)
  | [] => none
  | mark :: text =>
      if mark = 'Z' ∨ mark = 'z' then some (0, text)
      else if mark = '+' ∨ mark = '-' ∨ mark = '−' then do
        let (hour, text) ← figures? 2 text
        let text ← between text
        let (minute, text) ← figures? 2 text
        let east : Int := (hour * 3600 + minute * 60 : Nat)
        if 23 < hour ∨ 59 < minute then none
        else return (if mark = '+' then east else -east, text)
      else none

/-- The instant of a date, a clock and a zone, if each is in range. -/
def assemble? (date : CivilDate) (hour minute second nanoseconds : Nat) (east : Int) :
    Option Instant :=
  if !date.isValid ∨ 23 < hour ∨ 59 < minute ∨ 60 < second then none
  else
    let leap := second = 60
    let clock := hour * 3600 + minute * 60 + (if leap then 59 else second)
    some ⟨date.toDays * 86400 + clock - east,
      if leap then nanoseconds + perSecond else nanoseconds⟩

/-- The text after the mark that stands between a date and a clock. -/
def separator? (text : List Char) : Option (List Char) :=
  expect? 'T' text <|> expect? 't' text <|> expect? ' ' text

/-- The instant that a timestamp names. -/
def ofRfc3339? (timestamp : String) : Option Instant := do
  let (year, text) ← figures? 4 timestamp.toList
  let text ← expect? '-' text
  let (month, text) ← figures? 2 text
  let text ← expect? '-' text
  let (day, text) ← figures? 2 text
  let text ← separator? text
  let (hour, text) ← figures? 2 text
  let text ← expect? ':' text
  let (minute, text) ← figures? 2 text
  let text ← expect? ':' text
  let (second, text) ← figures? 2 text
  let (nanoseconds, text) ← fraction? text
  let (east, text) ← zone? (expect? ':') text
  if text.isEmpty then assemble? ⟨year, month, day⟩ hour minute second nanoseconds east else none

/-- The text after its leading blanks. -/
def skipBlanks (text : List Char) : List Char := text.dropWhile Text.isBlank

/-- The number of one up to so many digits at the front of a text, blanks before it skipped. -/
def looseFigures? (most : Nat) (text : List Char) : Option (Nat × List Char) := do
  let text := skipBlanks text
  let digits := (text.take most).takeWhile Char.isDigit
  let number ← Text.natural? digits
  return (number, text.drop digits.length)

/-- A year at the front of a text: of up to four digits, or of any number after a sign. -/
def looseYear? (text : List Char) : Option (Int × List Char) := do
  match skipBlanks text with
  | '-' :: text => do
      let digits := text.takeWhile Char.isDigit
      return (-(← Text.natural? digits : Nat), text.drop digits.length)
  | '+' :: text => do
      let digits := text.takeWhile Char.isDigit
      return ((← Text.natural? digits : Nat), text.drop digits.length)
  | text => do
      let (year, text) ← looseFigures? 4 text
      return (year, text)

/-- Greatest distance of a year from year zero that is read. -/
def greatestYear : Nat := 262142

/-- The zone at the front of a text, where `UTC` names zone zero and colon and blanks between hour
and minute are free. -/
def looseZone? (text : List Char) : Option (Int × List Char) :=
  if (text.take 3).map Char.toUpper = ['U', 'T', 'C'] then some (0, text.drop 3)
  else
    let isBetween (character : Char) : Bool := character = ':' || Text.isBlank character
    zone? (fun text => some (text.dropWhile isBetween)) text

/-- The instant that a timestamp names, read leniently: blanks may stand around the parts, numbers
may be shorter, and a year with a sign may have any number of digits. -/
def ofLooseText? (timestamp : String) : Option Instant := do
  let (year, text) ← looseYear? timestamp.toList
  let text ← expect? '-' (skipBlanks text)
  let (month, text) ← looseFigures? 2 text
  let text ← expect? '-' (skipBlanks text)
  let (day, text) ← looseFigures? 2 text
  let text ← separator? text
  let (hour, text) ← looseFigures? 2 text
  let text ← expect? ':' (skipBlanks text)
  let (minute, text) ← looseFigures? 2 text
  let text ← expect? ':' (skipBlanks text)
  let (second, text) ← looseFigures? 2 text
  let (nanoseconds, text) ← fraction? text
  let (east, text) ← looseZone? (skipBlanks text)
  if (skipBlanks text).isEmpty ∧ year.natAbs ≤ greatestYear then
    assemble? ⟨year, month, day⟩ hour minute second nanoseconds east
  else none

/-- Year in four digits, with a sign outside the years from zero to `9999`. -/
def yearText (year : Int) : String :=
  if 0 ≤ year ∧ year ≤ 9999 then Text.padded 4 year.toNat
  else (if year < 0 then "-" else "+") ++ Text.padded 4 year.natAbs

/-- Fraction of a second in the fewest of no, three, six or nine digits. -/
def fractionText (nanoseconds : Nat) : String :=
  if nanoseconds = 0 then ""
  else if nanoseconds % 1000000 = 0 then "." ++ Text.padded 3 (nanoseconds / 1000000)
  else if nanoseconds % 1000 = 0 then "." ++ Text.padded 6 (nanoseconds / 1000)
  else "." ++ Text.padded 9 nanoseconds

/-- The timestamp of an instant in zone `Z`. -/
def toRfc3339 (instant : Instant) : String :=
  let date := CivilDate.ofDays (instant.seconds.fdiv 86400)
  let clock := (instant.seconds.fmod 86400).toNat
  let leap := perSecond ≤ instant.nanoseconds
  let second := clock % 60 + if leap then 1 else 0
  let nanoseconds := instant.nanoseconds - if leap then perSecond else 0
  yearText date.year ++ "-" ++ Text.padded 2 date.month ++ "-" ++ Text.padded 2 date.day ++ "T" ++
    Text.padded 2 (clock / 3600) ++ ":" ++ Text.padded 2 (clock / 60 % 60) ++ ":" ++
    Text.padded 2 second ++ fractionText nanoseconds ++ "Z"

end Instant
end JarLedger
