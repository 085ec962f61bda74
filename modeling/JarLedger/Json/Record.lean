import JarLedger.Json.Basic
import JarLedger.Text.Whole

/-!
# Records in JSON

A record is written as an object with one member a field.  It is read from such an object, in which
other members are passed over, or from an array that holds exactly the fields in their order.
-/

namespace JarLedger
namespace Json
namespace Record

/-- The fields of a record by name. -/
def fields? (names : List String) : Json → Option (List (String × Json))
  | .object members => some members
  | .array items => if items.length = names.length then some (names.zip items) else none
  | _ => none

/-- A field that has to be there. -/
def required (fields : List (String × Json)) (name : String) (convert : Json → Option α) :
    Option α :=
  (fields.lookup name).bind convert

/-- A field that may be absent or `null`. -/
def optional (fields : List (String × Json)) (name : String) (convert : Json → Option α) :
    Option (Option α) :=
  match fields.lookup name with
  | none => some none
  | some .null => some none
  | some value => (convert value).map some

/-- The items of an array, each converted. -/
def list? (convert : Json → Option α) (value : Json) : Option (List α) :=
  value.items?.bind fun items => items.mapM convert

/-- The variant that an object with exactly one member names, and its content. -/
def variant? : Json → Option (String × Json)
  | .object [(name, content)] => some (name, content)
  | _ => none

end Record

/-- A 64-bit integer. -/
def int64? : Json → Option Int64
  | .number (.integer value) => if Text.fitsSigned 64 value then some (.ofInt value) else none
  | _ => none

/-- A 32-bit integer. -/
def int32? : Json → Option Int32
  | .number (.integer value) => if Text.fitsSigned 32 value then some (.ofInt value) else none
  | _ => none

/-- A 64-bit integer as a number. -/
def ofInt64 (value : Int64) : Json := .int value.toInt

/-- A 32-bit integer as a number. -/
def ofInt32 (value : Int32) : Json := .int value.toInt

end Json
end JarLedger
