/-!
# Searching in texts

Whether a text occurs inside another.
-/

namespace JarLedger
namespace Text

/-- Whether a list of characters stands somewhere in another. -/
def occursIn (part : List Char) : List Char → Bool
  | [] => part.isEmpty
  | character :: rest => part.isPrefixOf (character :: rest) || occursIn part rest

/-- Whether a text contains another. -/
def contains (whole part : String) : Bool := occursIn part.toList whole.toList

theorem occursIn_iff {part whole : List Char} : occursIn part whole = true ↔ part <:+: whole := by
  induction whole with
  | nil => simp [occursIn]
  | cons character rest ih =>
      rw [occursIn, Bool.or_eq_true, List.isPrefixOf_iff_prefix, ih, List.infix_cons_iff]

end Text
end JarLedger
