import JarLedger.Proofs.Snapshot.Fields

/-!
# Scalars spelled as texts

A number or a truth value may be given as the text that it is written as (`Json.respelled`).  Every
conversion of a member gives the same for either spelling.  For integers the text has to be read
back, at its full range; for all else it is enough that a text of a number has a digit, and that of
a double a mark that no integer has.
-/

namespace JarLedger

open Grammar

/-! ## Texts of numbers -/

namespace Text

theorem areDigits_toDigits (number : Nat) : AreDigits (Nat.toDigits 10 number) :=
  ⟨Nat.toDigits_ne_nil, fun _ member => Nat.isDigit_of_mem_toDigits (by decide) (by decide) member⟩

/-- Digits spell the number that they are written from. -/
theorem digitsValue_toDigits (number : Nat) : digitsValue (Nat.toDigits 10 number) = number := by
  have read := Nat.ofDigitChars_toDigits (b := 10) (n := number) (by decide) (by decide)
  rw [Nat.ofDigitChars_eq_foldl] at read
  have natural : natural? (Nat.toDigits 10 number) = some number := by
    have digits := areDigits_toDigits number
    rw [natural?, if_neg (by simpa [digits.1] using digits.2)]
    simpa only [Nat.mul_comm] using congrArg some read
  exact (natural?_eq_some_iff.mp natural).2.symm

/-- An integer is spelled by its text. -/
theorem numeral_toString (value : Int) : Numeral (toString value).toList value := by
  have digits (number : Nat) := areDigits_toDigits number
  cases value with
  | ofNat number =>
      have plain := Numeral.plain (digits number)
      rw [digitsValue_toDigits] at plain
      change Numeral number.repr.toList number
      rwa [Nat.toList_repr]
  | negSucc number =>
      have minus := Numeral.minus (digits (number + 1))
      rw [digitsValue_toDigits] at minus
      change Numeral ("-" ++ (number + 1).repr).toList (-((number + 1 : Nat) : Int))
      rwa [String.toList_append, Nat.toList_repr]

/-- An integer's text is read back as the integer, so no two integers have the same text. -/
theorem repr_inj {left right : Int} : left.repr = right.repr ↔ left = right := by
  have readBack (value : Int) : integer? value.repr.toList = some value :=
    integer?_eq_some_iff.mpr (numeral_toString value)
  constructor
  · intro same
    have read := readBack left
    rw [same, readBack right] at read
    exact (Option.some_inj.mp read).symm
  · exact congrArg Int.repr

/-- A numeral is made of digits and a sign. -/
theorem isDigit_of_mem_numeral {numeral : List Char} {value : Int} (spelled : Numeral numeral value)
    {character : Char} (member : character ∈ numeral) :
    character.isDigit = true ∨ character = '+' ∨ character = '-' := by
  cases spelled with
  | plain digits => exact .inl (digits.2 _ member)
  | plus digits =>
      rcases List.mem_cons.mp member with rfl | later
      · exact .inr (.inl rfl)
      · exact .inl (digits.2 _ later)
  | minus digits =>
      rcases List.mem_cons.mp member with rfl | later
      · exact .inr (.inr rfl)
      · exact .inl (digits.2 _ later)

/-- A text with a character that is no digit, no sign and no blank spells no integer. -/
theorem integer?_eq_none {characters : List Char} {mark : Char} (member : mark ∈ characters)
    (strange : mark.isDigit = false ∧ mark ≠ '+' ∧ mark ≠ '-' ∧ isBlank mark = false) :
    integer? (trimList isBlank characters) = none := by
  by_contra read
  obtain ⟨value, found⟩ := Option.ne_none_iff_exists'.mp read
  have spelled := integer?_eq_some_iff.mp found
  obtain ⟨front, back, split, blankFront, blankBack⟩ :=
    exists_eq_append_trimList isBlank characters
  rw [split, List.mem_append, List.mem_append] at member
  rcases member with (before | inside) | behind
  · simp [blankFront _ before] at strange
  · rcases isDigit_of_mem_numeral spelled inside with digit | sign | sign
    · simp [digit] at strange
    · exact strange.2.1 sign
    · exact strange.2.2.1 sign
  · simp [blankBack _ behind] at strange

end Text

namespace Decimal

theorem exists_figure (decimal : Decimal) : ∃ figure ∈ decimal.figures, figure.isDigit = true := by
  obtain ⟨figure, member⟩ := List.exists_mem_of_ne_nil decimal.figures Nat.toDigits_ne_nil
  exact ⟨figure, member, Nat.isDigit_of_mem_toDigits (by decide) (by decide) member⟩

theorem exists_digit_positional (decimal : Decimal) :
    ∃ digit ∈ decimal.positional.toList, digit.isDigit = true := by
  obtain ⟨figure, member, digit⟩ := decimal.exists_figure
  rw [positional]
  split
  · exact ⟨figure, by simp [member], digit⟩
  · split
    · refine ⟨figure, ?_, digit⟩
      rw [String.toList_ofList, List.mem_append, List.mem_cons]
      rw [← List.take_append_drop decimal.pointPlace.toNat decimal.figures,
        List.mem_append] at member
      exact member.imp id .inr
    · exact ⟨'0', by simp, by decide⟩

theorem exists_digit_scientific (decimal : Decimal) :
    ∃ digit ∈ decimal.scientific.toList, digit.isDigit = true := by
  obtain ⟨figure, member, digit⟩ := decimal.exists_figure
  refine ⟨figure, ?_, digit⟩
  rw [scientific]
  simp only [String.toList_append, String.toList_ofList, List.mem_append]
  refine .inl (.inl (.inl ?_))
  cases figures : decimal.figures with
  | nil => simp [figures] at member
  | cons first rest =>
      rw [figures] at member
      cases rest with
      | nil => exact member
      | cons second rest =>
          rcases List.mem_cons.mp member with rfl | later
          · exact List.mem_cons_self
          · exact List.mem_cons_of_mem _ (List.mem_cons_of_mem _ later)

/-- A fraction shows its point. -/
theorem point_mem_positional {decimal : Decimal} (fraction : ¬0 ≤ decimal.power) :
    '.' ∈ decimal.positional.toList := by
  rw [positional, if_neg fraction]
  split <;> simp

end Decimal

namespace Binary64

/-- The text of a double is positional, with a fraction in any case, or it is scientific. -/
theorem exists_text_eq (value : Binary64) : ∃ sign body : String, value.text = sign ++ body ∧
    (body = value.shortest.positional ++ ".0" ∨
      body = value.shortest.positional ∧ ¬0 ≤ value.shortest.power ∨
        body = value.shortest.scientific) := by
  refine ⟨_, _, rfl, ?_⟩
  split
  · split
    next => exact .inl rfl
    next fraction => exact .inr (.inl ⟨rfl, fraction⟩)
  · exact .inr (.inr rfl)

theorem exists_digit_text (value : Binary64) :
    ∃ digit ∈ value.text.toList, digit.isDigit = true := by
  obtain ⟨sign, body, same, cases⟩ := value.exists_text_eq
  obtain ⟨plain, inPlain, isDigit⟩ := value.shortest.exists_digit_positional
  obtain ⟨other, inOther, alsoDigit⟩ := value.shortest.exists_digit_scientific
  rw [same, String.toList_append]
  rcases cases with rfl | ⟨rfl, -⟩ | rfl
  · exact ⟨plain, by simp [inPlain], isDigit⟩
  · exact ⟨plain, by simp [inPlain], isDigit⟩
  · exact ⟨other, by simp [inOther], alsoDigit⟩

/-- The text of a double has a point or an exponent. -/
theorem exists_mark_text (value : Binary64) :
    '.' ∈ value.text.toList ∨ 'e' ∈ value.text.toList := by
  obtain ⟨sign, body, same, cases⟩ := value.exists_text_eq
  rw [same, String.toList_append, List.mem_append, List.mem_append]
  rcases cases with rfl | ⟨rfl, fraction⟩ | rfl
  · exact .inl (.inr (by simp))
  · exact .inl (.inr (Decimal.point_mem_positional fraction))
  · exact .inr (.inr (by simp [Decimal.scientific]))

end Binary64

theorem Json.Number.exists_digit_text (value : Json.Number) :
    ∃ digit ∈ value.text.toList, digit.isDigit = true := by
  cases value with
  | integer value =>
      -- The last character of a numeral is a digit, whether it has a sign or not.
      have last {digits : List Char} (spelled : AreDigits digits) :
          ∃ digit ∈ digits, digit.isDigit = true :=
        ⟨_, List.getLast_mem spelled.1, spelled.2 _ (List.getLast_mem spelled.1)⟩
      change ∃ digit ∈ (toString value).toList, digit.isDigit = true
      generalize (toString value).toList = characters, Text.numeral_toString value = spelled
      cases spelled with
      | plain digits => exact last digits
      | plus digits | minus digits =>
          obtain ⟨digit, member, isDigit⟩ := last digits
          exact ⟨digit, List.mem_cons_of_mem _ member, isDigit⟩
  | double value => exact value.exists_digit_text

/-- A text with a digit in it is no name, whatever case is made of it. -/
theorem Text.toLower_ne {text word : String} (figured : ∃ digit ∈ text.toList, digit.isDigit = true)
    (plain : word.toList.any Char.isDigit = false) : text.toLower ≠ word := by
  rintro rfl
  obtain ⟨digit, member, isDigit⟩ := figured
  have small : digit.toLower = digit := by
    simp only [Char.isDigit, Bool.and_eq_true, decide_eq_true_eq, UInt32.le_iff_toNat_le] at isDigit
    unfold Char.toLower
    rw [dif_neg]
    simp only [ge_iff_le, UInt32.le_iff_toNat_le]
    change 48 ≤ _ ∧ _ ≤ 57 at isDigit
    change ¬(65 ≤ _ ∧ _ ≤ 90)
    omega
  have kept : digit ∈ text.toLower.toList := by
    rw [toList_toLower]
    exact List.mem_map.mpr ⟨digit, member, small⟩
  exact absurd isDigit (by simpa using List.any_eq_false.mp plain digit kept)

/-! ## Respelled values -/

/-- A value with its text in its place if it is a number or a truth value. -/
def Json.respelled : Json → Json
  | .number value => .string value.text
  | .bool value => .string (Json.bool value).text
  | value => value

namespace Json

theorem isNull_respelled (value : Json) : value.respelled.isNull = value.isNull := by
  cases value <;> rfl

theorem members?_respelled (value : Json) : value.respelled.members? = value.members? := by
  cases value <;> rfl

theorem items?_respelled (value : Json) : value.respelled.items? = value.items? := by
  cases value <;> rfl

end Json

namespace Section

theorem scalarText?_respelled (value : Json) :
    scalarText? value.respelled = scalarText? value := by
  cases value <;> rfl

/-- An integer is read from its text; the text of a double is as little an integer as the double. -/
theorem scalarInt64?_respelled (value : Json) :
    scalarInt64? value.respelled = scalarInt64? value := by
  cases value with
  | number value =>
      rw [Json.respelled, scalarInt64?]
      cases value with
      | integer value =>
          have spelled := Text.numeral_toString value
          have none : ∀ character ∈ [], Text.isBlank character = true :=
            fun _ member => absurd member List.not_mem_nil
          have trimmed : Text.trimList Text.isBlank ([] ++ (toString value).toList ++ []) =
              (toString value).toList := Text.trimList_numeral none none spelled
          rw [List.nil_append, List.append_nil] at trimmed
          rw [Json.Number.text, trimmed, Text.integer?_eq_some_iff.mpr spelled]
          rfl
      | double value =>
          have unread : Text.integer? (Text.trimList Text.isBlank value.text.toList) = none := by
            rcases value.exists_mark_text with point | exponent
            · exact Text.integer?_eq_none point (by decide)
            · exact Text.integer?_eq_none exponent (by decide)
          rw [Json.Number.text, unread]
          rfl
  | bool value => cases value <;> decide
  | _ => rfl

/-- A truth value is read from its name, and no number is one. -/
theorem scalarBool?_respelled (value : Json) :
    scalarBool? value.respelled = scalarBool? value := by
  cases value with
  | number value =>
      have nameless (word : String) (plain : word.toList.any Char.isDigit = false) :=
        Text.toLower_ne value.exists_digit_text plain
      rw [Json.respelled, scalarBool?, if_neg (nameless "true" (by decide)),
        if_neg (nameless "false" (by decide))]
      rfl
  | bool value => cases value <;> decide +kernel
  | _ => rfl

end Section

/-- A scalar is no list of jars in any spelling. -/
theorem JarList.items_respelled (place : Path) (value : Json) :
    items place (some value.respelled) = items place (some value) := by
  cases value <;> rfl

end JarLedger
