import JarLedger.Failure
import JarLedger.Json.Printer
import JarLedger.Text.Blank
import JarLedger.Text.Whole

/-!
# Sections of a document

A section is an object inside a document together with its place.  Its accessors read a member by
name, take lenient spellings of scalars, treat `null` as absent, and report a failure with the
place of the member.
-/

namespace JarLedger

/-- An object inside a document. -/
structure Section where
  /-- Place of the object. -/
  path : Path
  /-- Its members. -/
  members : List (String × Json)

namespace Section

/-- Place of a member. -/
def pathOf (part : Section) (name : String) : Path := part.path ++ [.key name]

/-- Value of a member; `null` counts as absent. -/
def get? (part : Section) (name : String) : Option Json := Json.present? part.members name

/-- The failure of a member that is not what is expected. -/
def invalid (part : Section) (name : String) (expected : Expected) : ClassificationError :=
  .invalidField (part.pathOf name) expected

/-- The failure of a member that has to be there. -/
def missing (part : Section) (name : String) : ClassificationError :=
  .missingField (part.pathOf name)

/-- Text that a scalar stands for. -/
def scalarText? : Json → Option String
  | .string text => some text
  | .number value => some value.text
  | .bool value => some (Json.bool value).text
  | _ => none

/-- A 64-bit integer from a number, or from a decimal text that may have blanks at its ends. -/
def scalarInt64? : Json → Option Int64
  | .number (.integer value) => if Text.fitsSigned 64 value then some (.ofInt value) else none
  | .string text => do
      let value ← Text.integer? (Text.trimList Text.isBlank text.toList)
      if Text.fitsSigned 64 value then some (.ofInt value) else none
  | _ => none

/-- A truth value from a boolean, or from its name in any case. -/
def scalarBool? : Json → Option Bool
  | .bool value => some value
  | .string text =>
      let name := text.toLower
      if name = "true" then some true else if name = "false" then some false else none
  | _ => none

/-- A 32-bit integer from a 64-bit one in range. -/
def narrow? (value : Int64) : Option Int32 :=
  if Text.fitsSigned 32 value.toInt then some (.ofInt value.toInt) else none

/-- Read a member by a conversion; an absent one gives none. -/
def optional (part : Section) (name : String) (expected : Expected) (convert : Json → Option α) :
    Except ClassificationError (Option α) :=
  match part.get? name with
  | none => .ok none
  | some value =>
      match convert value with
      | some result => .ok (some result)
      | none => .error (part.invalid name expected)

/-- A member that is a scalar, as text. -/
def optText (part : Section) (name : String) : Except ClassificationError (Option String) :=
  part.optional name .string scalarText?

/-- A member that is a 64-bit integer. -/
def optInt64 (part : Section) (name : String) : Except ClassificationError (Option Int64) :=
  part.optional name .integer scalarInt64?

/-- A member that is a 32-bit integer. -/
def optInt32 (part : Section) (name : String) : Except ClassificationError (Option Int32) := do
  match ← part.optInt64 name with
  | none => .ok none
  | some value =>
      match narrow? value with
      | some result => .ok (some result)
      | none => .error (part.invalid name .integer32)

/-- A member that is a truth value. -/
def optBool (part : Section) (name : String) : Except ClassificationError (Option Bool) :=
  part.optional name .boolean scalarBool?

/-- A member that is an object. -/
def optObject (part : Section) (name : String) :
    Except ClassificationError (Option (List (String × Json))) :=
  part.optional name .object Json.members?

/-- A member that is an array; an absent one is empty. -/
def optArray (part : Section) (name : String) : Except ClassificationError (List Json) := do
  return (← part.optional name .array Json.items?).getD []

/-- A value that has to be there. -/
def required (part : Section) (name : String) (found : Except ClassificationError (Option α)) :
    Except ClassificationError α := do
  match ← found with
  | some value => .ok value
  | none => .error (part.missing name)

/-- A scalar that has to be there, as text. -/
def requiredText (part : Section) (name : String) : Except ClassificationError String :=
  part.required name (part.optText name)

/-- A 64-bit integer that has to be there. -/
def requiredInt64 (part : Section) (name : String) : Except ClassificationError Int64 :=
  part.required name (part.optInt64 name)

/-- A member as it came, or `null` if it is absent. -/
def raw (part : Section) (name : String) : Json := (part.get? name).getD .null

end Section

/-- The object at a place of a document as a section. -/
def Section.ofItem (path : Path) (item : Json) : Except ClassificationError Section :=
  match item with
  | .object members => .ok ⟨path, members⟩
  | _ => .error (.invalidField path .object)

/-- Apply a reader to each item of an array together with its place; the first failure wins. -/
def Section.readItems (path : Path) (read : Path → Json → Except ClassificationError α)
    (items : List Json) : Except ClassificationError (List α) :=
  (items.zipIdx).mapM fun (item, position) => read (path ++ [.index position]) item

end JarLedger
