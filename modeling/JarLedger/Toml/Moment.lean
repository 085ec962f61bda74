import JarLedger.Time.Rfc3339
import JarLedger.Toml.Value

/-!
# TOML dates and times

A date has four digits of the year and two of month and day, a time two digits each of hour and
minute, and optionally of the second with an optional fraction of which nine digits count.  `T`, `t`
or a space stands between them; a zone, `Z`, `z` or a signed hour and minute, may follow both.
-/

namespace JarLedger
namespace Toml
namespace Moment

/-- The date at the front of a text. -/
def date? (text : List Char) : Option (CivilDate × List Char) := do
  let (year, text) ← Instant.figures? 4 text
  let text ← Instant.expect? '-' text
  let (month, text) ← Instant.figures? 2 text
  let text ← Instant.expect? '-' text
  let (day, text) ← Instant.figures? 2 text
  let date : CivilDate := ⟨year, month, day⟩
  if date.isValid then some (date, text) else none

/-- The seconds and nanoseconds at the front of a text, behind a colon; without one there are
none. -/
def seconds? : List Char → Option ((Nat × Nat) × List Char)
  | ':' :: text => do
      let (second, text) ← Instant.figures? 2 text
      let (nanoseconds, text) ← Instant.fraction? text
      return ((second, nanoseconds), text)
  | text => some ((0, 0), text)

/-- The time of day at the front of a text. -/
def time? (text : List Char) : Option (TimeOfDay × List Char) := do
  let (hour, text) ← Instant.figures? 2 text
  let text ← Instant.expect? ':' text
  let (minute, text) ← Instant.figures? 2 text
  let ((second, nanoseconds), text) ← seconds? text
  if 23 < hour ∨ 59 < minute ∨ 60 < second then none
  else some (⟨hour, minute, second, nanoseconds⟩, text)

/-- The zone that a text names; an empty one names none. -/
def zone? : List Char → Option (Option Zone)
  | [] => some none
  | [mark] => if mark = 'Z' ∨ mark = 'z' then some (some .universal) else none
  | mark :: text => do
      let (hour, text) ← Instant.figures? 2 text
      let text ← Instant.expect? ':' text
      let (minute, text) ← Instant.figures? 2 text
      let minutes : Int := (hour * 60 + minute : Nat)
      if 23 < hour ∨ 59 < minute ∨ !text.isEmpty then none
      else if mark = '+' then some (some (.east minutes))
      else if mark = '-' then some (some (.east (-minutes)))
      else none

/-- The moment that a text names. -/
def read? (text : List Char) : Option Moment :=
  match date? text with
  | some (date, []) => some ⟨some date, none, none⟩
  | some (date, text) => do
      let (time, text) ← time? (← Instant.separator? text)
      return ⟨some date, some time, ← zone? text⟩
  | none => do
      let (time, text) ← time? text
      if text.isEmpty then some ⟨none, some time, none⟩ else none

/-- Fraction of a second without its last zeros. -/
def fractionText (nanoseconds : Nat) : String :=
  if nanoseconds = 0 then ""
  else
    let figures := (Text.padded 9 nanoseconds).toList.reverse.dropWhile fun figure => figure = '0'
    "." ++ String.ofList figures.reverse

end Moment

/-- Text of a time of day. -/
def TimeOfDay.text (time : TimeOfDay) : String :=
  Text.padded 2 time.hour ++ ":" ++ Text.padded 2 time.minute ++ ":" ++ Text.padded 2 time.second ++
    Moment.fractionText time.nanoseconds

/-- Text of a zone. -/
def Zone.text : Zone → String
  | .universal => "Z"
  | .east minutes =>
      (if minutes < 0 then "-" else "+") ++ Text.padded 2 (minutes.natAbs / 60) ++ ":" ++
        Text.padded 2 (minutes.natAbs % 60)

/-- Text of a moment, with `T` between date and time. -/
def Moment.text (moment : Moment) : String :=
  let date := moment.date.map fun date =>
    Text.padded 4 date.year.toNat ++ "-" ++ Text.padded 2 date.month ++ "-" ++
      Text.padded 2 date.day
  let between := if moment.date.isSome ∧ moment.time.isSome then "T" else ""
  date.getD "" ++ between ++ (moment.time.map TimeOfDay.text).getD "" ++
    (moment.zone.map Zone.text).getD ""

end Toml
end JarLedger
