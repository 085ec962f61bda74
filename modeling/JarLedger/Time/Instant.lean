/-!
# Instants and the civil calendar

An instant counts seconds from the start of 1970, and nanoseconds inside the second.  A leap second
is kept as a second of two thousand million nanoseconds' length, so that a clock which shows `:60`
can be written back.  The calendar is the proleptic Gregorian one, for every integer year.
-/

namespace JarLedger

/-- A point in time. -/
structure Instant where
  /-- Whole seconds since the start of 1970. -/
  seconds : Int
  /-- Nanoseconds since that second began; from `10⁹` on inside a leap second. -/
  nanoseconds : Nat
  deriving DecidableEq, Repr, Inhabited

/-- A day of the calendar. -/
structure CivilDate where
  /-- Year; the year before year one is year zero. -/
  year : Int
  /-- Month, from one. -/
  month : Nat
  /-- Day of the month, from one. -/
  day : Nat
  deriving DecidableEq, Repr

namespace CivilDate

/-- Whether a year has a leap day. -/
def isLeapYear (year : Int) : Bool :=
  year.emod 4 = 0 ∧ (year.emod 100 ≠ 0 ∨ year.emod 400 = 0)

/-- Days of a month. -/
def daysInMonth (year : Int) : Nat → Nat
  | 2 => if isLeapYear year then 29 else 28
  | 4 | 6 | 9 | 11 => 30
  | _ => 31

/-- Whether month and day are in range. -/
def isValid (date : CivilDate) : Bool :=
  1 ≤ date.month ∧ date.month ≤ 12 ∧ 1 ≤ date.day ∧ date.day ≤ daysInMonth date.year date.month

/-- Days from the start of a four-hundred-year cycle's first March to that of a month, the year
being counted from March. -/
def daysBeforeMonth (monthFromMarch : Nat) : Nat := (153 * monthFromMarch + 2) / 5

/-- Days since the start of 1970.  Years are counted from March, so that a leap day ends its year,
and in cycles of four hundred years, each of `146097` days. -/
def toDays (date : CivilDate) : Int :=
  let year := if date.month ≤ 2 then date.year - 1 else date.year
  let cycle := year.fdiv 400
  let inCycle := (year.fmod 400).toNat
  let monthFromMarch := (date.month + 9) % 12
  let inYear := daysBeforeMonth monthFromMarch + date.day - 1
  cycle * 146097 + (inCycle * 365 + inCycle / 4 - inCycle / 100 + inYear : Nat) - 719468

/-- The day that comes so many days after the start of 1970. -/
def ofDays (days : Int) : CivilDate :=
  let shifted := days + 719468
  let cycle := shifted.fdiv 146097
  let inCycle := (shifted.fmod 146097).toNat
  let year := (inCycle - inCycle / 1460 + inCycle / 36524 - inCycle / 146096) / 365
  let inYear := inCycle - (365 * year + year / 4 - year / 100)
  let monthFromMarch := (5 * inYear + 2) / 153
  let month := if monthFromMarch < 10 then monthFromMarch + 3 else monthFromMarch - 9
  let year : Int := cycle * 400 + year
  ⟨if month ≤ 2 then year + 1 else year, month, inYear - daysBeforeMonth monthFromMarch + 1⟩

end CivilDate

namespace Instant

/-- Nanoseconds of a second. -/
def perSecond : Nat := 1000000000

/-- The instant so many milliseconds after the start of 1970. -/
def ofMilliseconds (milliseconds : Int) : Instant :=
  ⟨milliseconds.fdiv 1000, (milliseconds.fmod 1000).toNat * 1000000⟩

/-- The instant so many microseconds after the start of 1970. -/
def ofMicroseconds (microseconds : Int) : Instant :=
  ⟨microseconds.fdiv 1000000, (microseconds.fmod 1000000).toNat * 1000⟩

/-- Seconds from the start of 1970 to that of 2000. -/
def millennium : Int := 946684800

/-- The instant in whole microseconds, the rest being cut off towards the start of 2000.  A leap
second runs on into the next second. -/
def toMicroseconds (instant : Instant) : Instant :=
  let nanoseconds := (instant.seconds - millennium) * perSecond + instant.nanoseconds
  ofMicroseconds (nanoseconds.tdiv 1000 + millennium * 1000000)

end Instant
end JarLedger
