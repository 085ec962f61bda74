import JarLedger.Settings.Basic
import JarLedger.Text.Case
import JarLedger.Toml.Reader

/-!
# Settings as they are given

A setting from a file or from the environment, before it is known what it has to be.  Each kind of
setting takes what can stand for it: numbers and certain words for a truth value, truth values and
rounded numbers for a count, and any single value for a text.
-/

namespace JarLedger

/-- What is given for a setting. -/
inductive Given where
  /-- A truth value. -/
  | flag (value : Bool)
  /-- An integer. -/
  | integer (value : Int)
  /-- Any other number. -/
  | real (value : Extended)
  /-- A text. -/
  | text (value : String)
  /-- Several values, which stand for no setting. -/
  | compound
  deriving DecidableEq, Repr

namespace Given

/-- Whether a word stands for yes or no. -/
def word? : String → Option Bool
  | "true" | "on" | "yes" => some true
  | "false" | "off" | "no" => some false
  | _ => none

/-- The natural number below `2⁶⁴` that a text spells, with an optional plus sign. -/
def natural? (text : String) : Option Nat := do
  let digits := match text.toList with
    | '+' :: digits => digits
    | digits => digits
  let number ← Text.natural? digits
  if number < UInt64.size then some number else none

/-- The count that is given. -/
def toNat? : Given → Option Nat
  | .flag value => some value.toNat
  | .integer value => if value < 0 then none else some value.toNat
  | .real value => some (value.toNatUpTo (UInt64.size - 1))
  | .text value => ((word? (Text.lower value)).map Bool.toNat) <|> natural? value
  | .compound => none

/-- The truth value that is given. -/
def toBool? : Given → Option Bool
  | .flag value => some value
  | .integer value => some (value ≠ 0)
  | .real value => some !value.isZero
  | .text "1" => some true
  | .text "0" => some false
  | .text value => word? (Text.lower value)
  | .compound => none

/-- The text that is given. -/
def toText? : Given → Option String
  | .flag value => some (if value then "true" else "false")
  | .integer value => some (toString value)
  | .real value => some value.text
  | .text value => some value
  | .compound => none

/-- What a value of a settings file gives. -/
def ofToml : Toml.Value → Given
  | .flag value => .flag value
  | .integer value => .integer value
  | .real value => .real value
  | .text value => .text value
  | .moment value => .text value.text
  | .array _ | .table _ _ | .tables _ => .compound

/-- What the text of an environment variable gives. -/
def ofVariable (text : String) : Given :=
  match Text.lower text with
  | "true" => .flag true
  | "false" => .flag false
  | _ =>
      match (Text.integer? text.toList).filter (Text.fitsSigned 64) with
      | some value => .integer value
      | none => ((Extended.ofText? text).map Given.real).getD (.text text)

/-! ## Names -/

/-- The text after a minus sign, if one stands at its front. -/
def afterMinus : List Char → List Char
  | '-' :: rest => rest
  | rest => rest

theorem length_afterMinus_le (text : List Char) : (afterMinus text).length ≤ text.length := by
  unfold afterMinus
  split
  · exact Nat.le_succ _
  · exact Nat.le_refl _

/-- The text after an index in brackets, of which the opening one is read. -/
def afterIndex? (text : List Char) : Option (List Char) :=
  let text := afterMinus (Toml.skipSpaces text)
  match Toml.skipSpaces (text.dropWhile Char.isDigit) with
  | ']' :: rest =>
      let index := Text.natural? (text.takeWhile Char.isDigit)
      if (index.any fun number => number < Nat.pow 2 63) then some rest
      else none
  | _ => none

theorem length_afterIndex? {text rest : List Char} (found : afterIndex? text = some rest) :
    rest.length < text.length := by
  have spaces := Toml.length_skipSpaces_le text
  have sign := length_afterMinus_le (Toml.skipSpaces text)
  have digits := Text.length_dropWhile_le Char.isDigit (afterMinus (Toml.skipSpaces text))
  unfold afterIndex? at found
  dsimp only at found
  split at found
  · next bracket =>
    have shorter := Toml.length_lt_of_skipSpaces bracket
    split at found
    · obtain rfl := Option.some.inj found
      omega
    · cases found
  · cases found

/-- Whether a text leads into a value: steps that are each a name after a dot or an index in
brackets. -/
def isPath (text : List Char) : Bool :=
  match text with
  | [] => true
  | '.' :: rest =>
      !(rest.takeWhile Toml.isNamePart).isEmpty && isPath (rest.dropWhile Toml.isNamePart)
  | '[' :: rest =>
      match _found : afterIndex? rest with
      | none => false
      | some after => isPath after
  | _ => false
termination_by text.length
decreasing_by
  · exact Nat.lt_succ_of_le (Text.length_dropWhile_le Toml.isNamePart rest)
  · exact Nat.lt_succ_of_lt (length_afterIndex? _found)

/-- The setting that a name is about, and what it gives it: a name that leads into a setting makes
it one of several values. -/
def place (name : String) (given : Given) : String × Given :=
  let root := name.toList.takeWhile Toml.isNamePart
  let path := name.toList.dropWhile Toml.isNamePart
  if !root.isEmpty ∧ !path.isEmpty ∧ isPath path then (String.ofList root, .compound)
  else (name, given)

/-- Settings given by the members of a settings file. -/
def ofMembers (members : Toml.Members) : List (String × Given) :=
  members.map fun member => place member.1 (ofToml member.2)

/-- Start of the names of the variables that hold settings, in small letters. -/
def variableLead : List Char := (Text.lower (Settings.environmentName ++ "_")).toList

/-- Settings given by environment variables, whose names are compared without case. -/
def ofVariables (environment : List (String × String)) : List (String × Given) :=
  environment.filterMap fun (name, content) =>
    let name := (Text.lower name).toList
    if variableLead.isPrefixOf name then
      some (place (String.ofList (name.drop variableLead.length)) (ofVariable content))
    else none

/-- What is given last for a name. -/
def last? (all : List (String × Given)) (name : String) : Option Given := all.reverse.lookup name

end Given
end JarLedger
