import JarLedger.Json.Basic

/-!
# Equality of JSON values

Two JSON values are compared part by part, and are equal exactly if all parts are
(`Json.isSame_iff`).
-/

namespace JarLedger
namespace Json

mutual

/-- Whether two values have the same parts. -/
def isSame : Json → Json → Bool
  | .null, .null => true
  | .bool left, .bool right => left == right
  | .number left, .number right => left == right
  | .string left, .string right => left == right
  | .array left, .array right => areSame left right
  | .object left, .object right => haveSame left right
  | _, _ => false

/-- Whether values in order have the same parts. -/
def areSame : List Json → List Json → Bool
  | [], [] => true
  | left :: lefts, right :: rights => isSame left right && areSame lefts rights
  | _, _ => false

/-- Whether members in order have the same names and parts. -/
def haveSame : List (String × Json) → List (String × Json) → Bool
  | [], [] => true
  | (name, left) :: lefts, (other, right) :: rights =>
      name == other && (isSame left right && haveSame lefts rights)
  | _, _ => false

end

mutual

theorem isSame_iff : (left right : Json) → (isSame left right = true ↔ left = right)
  | left, right => by
      cases left <;> cases right <;> simp [isSame, areSame_iff, haveSame_iff]

theorem areSame_iff : (left right : List Json) → (areSame left right = true ↔ left = right)
  | [], right => by cases right <;> simp [areSame]
  | left :: lefts, right => by
      cases right <;> simp [areSame, isSame_iff left, areSame_iff lefts]

theorem haveSame_iff : (left right : List (String × Json)) →
    (haveSame left right = true ↔ left = right)
  | [], right => by cases right <;> simp [haveSame]
  | (name, left) :: lefts, right => by
      cases right <;> simp [haveSame, isSame_iff left, haveSame_iff lefts, Prod.ext_iff, and_assoc]

end

instance : DecidableEq Json := fun left right => decidable_of_iff _ (isSame_iff left right)

end Json
end JarLedger
