import JarLedger.Json.Basic
import JarLedger.Time.Instant

/-!
# Statements

A statement has a text with numbered places and the values that fill them.  An insert is kept as its
rows; its text is derived from them.
-/

namespace JarLedger

/-- A value in a statement or in an answer. -/
inductive SqlValue where
  | null
  | int (number : Int)
  | bool (flag : Bool)
  | text (characters : String)
  | json (value : Json)
  | time (instant : Instant)
  | bytes (content : List UInt8)

namespace SqlValue

/-- A value that may be absent. -/
def ofOption (wrap : α → SqlValue) : Option α → SqlValue
  | none => .null
  | some value => wrap value

/-- A number. -/
def int? : SqlValue → Option Int
  | .int number => some number
  | _ => none

/-- A text. -/
def text? : SqlValue → Option String
  | .text characters => some characters
  | _ => none

end SqlValue

/-- An insert of one or more rows into a table. -/
structure Insert where
  table : String
  columns : List String
  /-- The rows; each has a value for every column. -/
  rows : List (List SqlValue)
  /-- What follows the rows. -/
  clause : String := ""

namespace Insert

/-- The places of a row that comes after so many values. -/
def placesText (width before : Nat) : String :=
  "(" ++ ", ".intercalate ((List.range width).map fun (column : Nat) =>
    "$" ++ toString (before + column + 1)) ++ ")"

/-- The text of an insert. -/
def text (insert : Insert) : String :=
  let width := insert.columns.length
  let places := (List.range insert.rows.length).map fun (row : Nat) =>
    placesText width (row * width)
  "INSERT INTO " ++ insert.table ++ " (" ++ ", ".intercalate insert.columns ++ ") VALUES " ++
    ", ".intercalate places ++ insert.clause

end Insert

/-- A statement. -/
inductive Statement where
  /-- An insert. -/
  | insert (rows : Insert)
  /-- Any other statement. -/
  | plain (words : String) (values : List SqlValue)

namespace Statement

/-- Open a transaction. -/
def begin : Statement := .plain "BEGIN" []

/-- Make a transaction last. -/
def commit : Statement := .plain "COMMIT" []

/-- Undo a transaction. -/
def rollback : Statement := .plain "ROLLBACK" []

/-- The text that is sent. -/
def text : Statement → String
  | .insert rows => rows.text
  | .plain words _ => words

/-- The values that are sent with the text. -/
def parameters : Statement → List SqlValue
  | .insert rows => rows.rows.flatten
  | .plain _ values => values

end Statement
end JarLedger
