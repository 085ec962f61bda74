/-!
# Readers

A reader takes something from the front of a text, at least one character of it, or refuses.  Since
what it leaves is shorter than what it got, reading one item after another comes to an end.
-/

namespace JarLedger
namespace Text

/-- A reading that succeeds leaves fewer than so many characters. -/
def Leaves {α : Type} (limit : Nat) (reading : Option (α × List Char)) : Prop :=
  ∀ (value : α) (rest : List Char), reading = some (value, rest) → rest.length < limit

theorem leaves_none {α : Type} {limit : Nat} : Leaves limit (none : Option (α × List Char)) := by
  intro value rest read
  cases read

theorem leaves_some {α : Type} {limit : Nat} {value : α} {rest : List Char}
    (short : rest.length < limit) : Leaves limit (some (value, rest)) := by
  rintro _ _ ⟨⟩
  exact short

/-- What follows a reading may be judged by what the reading leaves. -/
theorem leaves_bind {α β : Type} {limit middle : Nat} {first : Option (α × List Char)}
    {next : α × List Char → Option (β × List Char)} (front : Leaves middle first)
    (back : ∀ (value : α) (rest : List Char), rest.length < middle →
      Leaves limit (next (value, rest))) :
    Leaves limit (first >>= next) := by
  cases first with
  | none => exact leaves_none
  | some entry => exact back entry.1 entry.2 (front entry.1 entry.2 rfl)

/-- What follows something else may be judged by what that is. -/
theorem leaves_given {γ α : Type} {limit : Nat} {given : Option γ}
    {next : γ → Option (α × List Char)}
    (back : ∀ value, given = some value → Leaves limit (next value)) :
    Leaves limit (given >>= next) := by
  cases given with
  | none => exact leaves_none
  | some value => exact back value rfl

/-- What becomes of the value read does not change what is left. -/
theorem leaves_map {α β : Type} {limit : Nat} {reading : Option (α × List Char)}
    {give : α × List Char → β × List Char} (keeps : ∀ entry, (give entry).2 = entry.2)
    (front : Leaves limit reading) : Leaves limit (reading.map give) := by
  cases reading with
  | none => exact leaves_none
  | some entry =>
      refine leaves_some ?_
      rw [keeps entry]
      exact front entry.1 entry.2 rfl

/-- A value found elsewhere may be handed out with a rest of the text. -/
theorem leaves_pair {α β : Type} {limit : Nat} {given : Option α} {give : α → β × List Char}
    (short : ∀ value, (give value).2.length < limit) : Leaves limit (given.map give) := by
  cases given with
  | none => exact leaves_none
  | some value => exact leaves_some (short value)

/-- A reading of a shorter text leaves less than any longer limit. -/
theorem Leaves.mono {α : Type} {limit wider : Nat} {reading : Option (α × List Char)}
    (front : Leaves limit reading) (wide : limit ≤ wider) : Leaves wider reading :=
  fun value rest read => Nat.lt_of_lt_of_le (front value rest read) wide

/-- A reader of the front of a text. -/
structure Reader (α : Type) where
  /-- What was read, and the text after it. -/
  read? : List Char → Option (α × List Char)
  /-- At least one character is taken. -/
  leaves : ∀ (text : List Char), Leaves text.length (read? text)

theorem length_dropWhile_le (test : Char → Bool) (text : List Char) :
    (text.dropWhile test).length ≤ text.length :=
  (List.dropWhile_sublist test).length_le

theorem length_dropWhile_lt {test : Char → Bool} {text : List Char}
    (taken : text.takeWhile test ≠ []) : (text.dropWhile test).length < text.length := by
  have whole := congrArg List.length (List.takeWhile_append_dropWhile (p := test) (l := text))
  have positive := List.length_pos_iff.mpr taken
  rw [List.length_append] at whole
  omega

end Text
end JarLedger
