import JarLedger.Binary64.Extended
import JarLedger.Time.Instant

/-!
# TOML values

A document is a table: named values in the order in which they are first named.  Tables remember how
they came about, because that decides whether later lines may add to them.
-/

namespace JarLedger
namespace Toml

/-- A time of day. -/
structure TimeOfDay where
  hour : Nat
  minute : Nat
  second : Nat
  nanoseconds : Nat
  deriving DecidableEq, Repr

/-- A zone. -/
inductive Zone where
  /-- The zone named `Z`. -/
  | universal
  /-- Minutes east of the universal zone. -/
  | east (minutes : Int)
  deriving DecidableEq, Repr

/-- A date, a time of day, or both, with a zone or without. -/
structure Moment where
  date : Option CivilDate
  time : Option TimeOfDay
  zone : Option Zone
  deriving DecidableEq, Repr

/-- How a table came about. -/
inductive Opening where
  /-- A header names it. -/
  | header
  /-- The header of a table below it implies it. -/
  | implied
  /-- A key with dots implies it. -/
  | dotted
  /-- It is written in braces. -/
  | inline
  deriving DecidableEq, Repr

/-- A value. -/
inductive Value where
  /-- A truth value. -/
  | flag (value : Bool)
  /-- An integer. -/
  | integer (value : Int)
  /-- A number with a fraction or an exponent, or an infinite one. -/
  | real (value : Extended)
  /-- A text. -/
  | text (value : String)
  /-- A date or a time. -/
  | moment (value : Moment)
  /-- Values in order. -/
  | array (items : List Value)
  /-- Named values in the order of their naming. -/
  | table (opening : Opening) (members : List (String × Value))
  /-- Tables under repeated headers, last first. -/
  | tables (items : List (List (String × Value)))
  deriving Repr, Inhabited

end Toml
end JarLedger
