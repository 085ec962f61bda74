import JarLedger.SortedMap
import JarLedger.Binary64.Shortest

/-!
# JSON values

A JSON value as a tree.  An object is the list of its members; a reader that meets a name twice
keeps the last value, and lists the members in ascending order of their names, so that two texts
with the same members read as one value.
-/

namespace JarLedger

/-- A number: an integer of at most sixty-four bits keeps its exact value, any other is a double. -/
inductive Json.Number where
  /-- An integer in the range of signed or unsigned 64-bit words. -/
  | integer (value : Int)
  /-- A number written with a fraction or an exponent, or too large for a word. -/
  | double (value : Binary64)
  deriving DecidableEq, Repr

/-- A JSON value. -/
inductive Json where
  /-- The value of an absent thing. -/
  | null
  /-- A truth value. -/
  | bool (value : Bool)
  /-- A number. -/
  | number (value : Json.Number)
  /-- A text. -/
  | string (value : String)
  /-- Values in order. -/
  | array (items : List Json)
  /-- Named values. -/
  | object (members : List (String × Json))
  deriving Repr, Inhabited

namespace Json

/-- An integer number. -/
abbrev int (value : Int) : Json := .number (.integer value)

/-- An object made of members in any order; of equal names the last one stays. -/
def ofMembers (members : List (String × Json)) : Json :=
  .object (SortedMap.ofListLast members).entries

/-- The members of an object. -/
def members? : Json → Option (List (String × Json))
  | .object members => some members
  | _ => none

/-- The items of an array. -/
def items? : Json → Option (List Json)
  | .array items => some items
  | _ => none

/-- The text of a string. -/
def string? : Json → Option String
  | .string text => some text
  | _ => none

/-- The truth value of a boolean. -/
def bool? : Json → Option Bool
  | .bool truth => some truth
  | _ => none

/-- The value of an integer number. -/
def int? : Json → Option Int
  | .number (.integer value) => some value
  | _ => none

/-- Whether the value is `null`. -/
def isNull : Json → Bool
  | .null => true
  | _ => false

/-- A text, or `null` for none. -/
def ofOption (encode : α → Json) : Option α → Json
  | none => .null
  | some value => encode value

/-- Value of a member; one that is `null` counts as absent. -/
def present? (members : List (String × Json)) (name : String) : Option Json :=
  (members.lookup name).filter fun value => !value.isNull

end Json
end JarLedger
