import JarLedger.Proofs.Attempts
import JarLedger.Proofs.Snapshot.Grammar
import JarLedger.Snapshot.JarList
import Mathlib.Data.List.Forall2
import Mathlib.Data.List.TakeWhile

/-!
# What the accessors of a section accept

Each accessor gives a result for exactly the members that the grammar allows.  The converters of
scalars come first: a text gives an integer (`Section.scalarInt64?_eq_some_iff`) or a truth value
(`Section.exists_scalarBool`) exactly if the grammar calls it one.  The lemmas on accessors are
rewriting rules, so that what a reader made of them accepts is computed from its text.
-/

namespace JarLedger
namespace Text

open Grammar

/-- Removing what satisfies a test from both ends leaves the middle, where the middle ends in
characters that do not satisfy it. -/
theorem trimList_append {test : Char → Bool} {front middle back : List Char}
    (passFront : ∀ character ∈ front, test character = true)
    (passBack : ∀ character ∈ back, test character = true)
    (starts : ∃ head tail, middle = head :: tail ∧ test head = false)
    (ends : ∃ initial last, middle = initial ++ [last] ∧ test last = false) :
    trimList test (front ++ middle ++ back) = middle := by
  obtain ⟨head, tail, atHead, headStays⟩ := starts
  obtain ⟨initial, last, atEnd, lastStays⟩ := ends
  have left : (front ++ middle ++ back).dropWhile test = middle ++ back := by
    rw [List.append_assoc, List.dropWhile_append_of_pos passFront, atHead, List.cons_append,
      List.dropWhile_cons_of_neg (by simp [headStays])]
  have right : (back.reverse ++ middle.reverse).dropWhile test = middle.reverse := by
    rw [List.dropWhile_append_of_pos (by simpa using passBack), atEnd, List.reverse_concat,
      List.dropWhile_cons_of_neg (by simp [lastStays])]
  rw [trimList, left, List.reverse_append, right, List.reverse_reverse]

/-- What is removed from the ends of a list satisfies the test. -/
theorem exists_eq_append_trimList (test : Char → Bool) (characters : List Char) :
    ∃ front back, characters = front ++ trimList test characters ++ back ∧
      (∀ character ∈ front, test character = true) ∧
        ∀ character ∈ back, test character = true := by
  let rest := characters.dropWhile test
  refine ⟨characters.takeWhile test, (rest.reverse.takeWhile test).reverse, ?_,
    fun _ member => List.mem_takeWhile_imp member,
    fun _ member => List.mem_takeWhile_imp (List.mem_reverse.mp member)⟩
  have back : trimList test characters ++ (rest.reverse.takeWhile test).reverse = rest := by
    rw [trimList, ← List.reverse_append, List.takeWhile_append_dropWhile, List.reverse_reverse]
  rw [List.append_assoc, back, List.takeWhile_append_dropWhile]

theorem natural?_eq_some_iff {characters : List Char} {number : Nat} :
    natural? characters = some number ↔
      AreDigits characters ∧ number = digitsValue characters := by
  have value : characters.foldl (fun number digit => number * 10 + (digit.toNat - '0'.toNat)) 0 =
      digitsValue characters := by
    rw [digitsValue, Nat.ofDigits_eq_foldr, List.foldr_map, List.foldr_reverse]
    refine congrArg (fun step => characters.foldl step 0) (funext₂ fun number digit => ?_)
    rw [Nat.cast_id, Nat.add_comm, Nat.mul_comm]
  have refused : (characters.isEmpty = true ∨ (!characters.all Char.isDigit) = true) ↔
      ¬AreDigits characters := by
    simp only [List.isEmpty_iff, Bool.not_eq_true', List.all_eq_false, AreDigits, ne_eq,
      not_and_or, not_not, not_forall, exists_prop]
  rw [natural?, value]
  by_cases digits : AreDigits characters
  · rw [if_neg (refused.not.mpr (not_not.mpr digits)), Option.some_inj, eq_comm]
    exact (and_iff_right digits).symm
  · rw [if_pos (refused.mpr digits)]
    exact iff_of_false nofun fun spelled => digits spelled.1

theorem integer?_eq_some_iff {characters : List Char} {value : Int} :
    integer? characters = some value ↔ Numeral characters value := by
  constructor
  · intro found
    unfold integer? at found
    split at found
    next digits =>
      obtain ⟨number, spelled, rfl⟩ :
          ∃ number, natural? digits = some number ∧ -(number : Int) = value := by
        simpa [Option.bind_eq_some_iff] using found
      obtain ⟨digits, rfl⟩ := natural?_eq_some_iff.mp spelled
      exact .minus digits
    · obtain ⟨number, spelled, rfl⟩ := Option.map_eq_some_iff.mp found
      obtain ⟨digits, rfl⟩ := natural?_eq_some_iff.mp spelled
      exact .plus digits
    · obtain ⟨number, spelled, rfl⟩ := Option.map_eq_some_iff.mp found
      obtain ⟨digits, rfl⟩ := natural?_eq_some_iff.mp spelled
      exact .plain digits
  · rintro (digits | digits | digits)
    · unfold integer?
      split
      · exact absurd (digits.2 '-' (by simp)) (by decide)
      · exact absurd (digits.2 '+' (by simp)) (by decide)
      · simp [natural?_eq_some_iff.mpr ⟨digits, rfl⟩]
    · simp [integer?, natural?_eq_some_iff.mpr ⟨digits, rfl⟩]
    · simp [integer?, natural?_eq_some_iff.mpr ⟨digits, rfl⟩]

theorem isBlank_of_isDigit {character : Char} (digit : character.isDigit = true) :
    isBlank character = false := by
  simp only [Char.isDigit, Bool.and_eq_true, decide_eq_true_eq, UInt32.le_iff_toNat_le] at digit
  change 48 ≤ character.toNat ∧ character.toNat ≤ 57 at digit
  simp only [isBlank, decide_eq_false_iff_not]
  omega

/-- A numeral starts with a sign or a digit and ends in a digit, so neither end is blank. -/
theorem trimList_numeral {front numeral back : List Char} {value : Int}
    (blankFront : ∀ character ∈ front, isBlank character = true)
    (blankBack : ∀ character ∈ back, isBlank character = true)
    (spelled : Numeral numeral value) :
    trimList isBlank (front ++ numeral ++ back) = numeral := by
  have starts {digits : List Char} (areDigits : AreDigits digits) :
      ∃ head tail, digits = head :: tail ∧ isBlank head = false := by
    obtain ⟨head, tail, rfl⟩ := List.exists_cons_of_ne_nil areDigits.1
    exact ⟨head, tail, rfl, isBlank_of_isDigit (areDigits.2 head (by simp))⟩
  have ends {digits : List Char} (areDigits : AreDigits digits) :
      ∃ initial last, digits = initial ++ [last] ∧ isBlank last = false := by
    have same := List.dropLast_concat_getLast areDigits.1
    exact ⟨_, _, same.symm, isBlank_of_isDigit (areDigits.2 _ (List.getLast_mem areDigits.1))⟩
  refine trimList_append blankFront blankBack ?_ ?_
  · cases spelled with
    | plain digits => exact starts digits
    | plus => exact ⟨_, _, rfl, by decide⟩
    | minus => exact ⟨_, _, rfl, by decide⟩
  · cases spelled with
    | plain digits => exact ends digits
    | plus digits | minus digits =>
        obtain ⟨initial, last, rfl, stays⟩ := ends digits
        exact ⟨_ :: initial, last, rfl, stays⟩

theorem fitsSigned_iff (bits : Nat) (number : Int) :
    fitsSigned bits number = true ↔ -2 ^ (bits - 1) ≤ number ∧ number < 2 ^ (bits - 1) := by
  rw [fitsSigned, decide_eq_true_eq]
  rfl

/-- A character is a small letter after its capital was made small exactly if it is that letter or
the letter's capital. -/
theorem toLower_eq_iff {character letter : Char} (small : letter.isLower = true) :
    character.toLower = letter ↔ character = letter ∨ character = letter.toUpper := by
  unfold Char.isLower at small
  simp only [ge_iff_le, Bool.and_eq_true, decide_eq_true_eq, UInt32.le_iff_toNat_le] at small
  have capital : letter.toUpper.val.toNat + 32 = letter.val.toNat := by
    unfold Char.toUpper
    rw [dif_pos (by simpa only [UInt32.le_iff_toNat_le] using small)]
    simp only [UInt32.toNat_add, UInt32.toNat_sub]
    change (letter.val.toNat + 4294967264) % 4294967296 + 32 = letter.val.toNat
    change 97 ≤ _ ∧ _ ≤ 122 at small
    omega
  change 97 ≤ _ ∧ _ ≤ 122 at small
  rw [Char.ext_iff, Char.ext_iff, Char.ext_iff, ← UInt32.toNat_inj, ← UInt32.toNat_inj,
    ← UInt32.toNat_inj]
  unfold Char.toLower
  split
  next isCapital =>
    simp only [ge_iff_le, UInt32.le_iff_toNat_le] at isCapital
    change 65 ≤ _ ∧ _ ≤ 90 at isCapital
    change (character.val.toNat + 32) % 4294967296 = _ ↔ _
    omega
  next noCapital =>
    simp only [ge_iff_le, UInt32.le_iff_toNat_le] at noCapital
    change ¬(65 ≤ _ ∧ _ ≤ 90) at noCapital
    omega

theorem toList_toLower (text : String) : text.toLower.toList = text.toList.map Char.toLower :=
  String.toList_map

end Text

/-! ## Scalars -/

theorem Decimal.positional_ne_empty (decimal : Decimal) : decimal.positional ≠ "" := by
  have figures : decimal.figures ≠ [] := Nat.toDigits_ne_nil
  rw [ne_eq, ← String.toList_inj, positional]
  split
  · simp [figures]
  · split <;> simp

theorem Json.Number.text_ne_empty (value : Json.Number) : value.text ≠ "" := by
  rw [ne_eq, ← String.toList_inj]
  cases value with
  | integer value =>
      change (Int.repr value).toList ≠ []
      cases value with
      | ofNat number => exact fun empty => Nat.repr_ne_empty (String.toList_inj.mp empty)
      | negSucc number => simp [Int.repr]
  | double value =>
      have positional := value.shortest.positional_ne_empty
      rw [text, Binary64.text, String.toList_append]
      refine List.append_ne_nil_of_right_ne_nil _ ?_
      split
      · split <;> simp [positional]
      · simp [Decimal.scientific]

namespace Section

open Grammar

/-- Only the empty text is read as an empty text. -/
theorem scalarText?_eq_some_empty_iff (value : Json) :
    scalarText? value = some "" ↔ value = .string "" := by
  cases value with
  | number value => simp [scalarText?, value.text_ne_empty]
  | bool truth => cases truth <;> simp [scalarText?, Json.text]
  | _ => simp [scalarText?]

theorem exists_scalarText (value : Json) :
    (∃ text, scalarText? value = some text) ↔ IsText value := by
  constructor
  · rintro ⟨text, found⟩
    cases value with
    | string text => exact .string text
    | number number => exact .number number
    | bool truth => exact .bool truth
    | null | array | object => exact absurd found nofun
  · rintro (text | number | truth)
    exacts [⟨_, rfl⟩, ⟨_, rfl⟩, ⟨_, rfl⟩]

theorem scalarInt64?_eq_some_iff (value : Json) (word : Int64) :
    scalarInt64? value = some word ↔ SpellsInteger value word.toInt := by
  have convert (number : Int) :
      (if Text.fitsSigned 64 number then some (Int64.ofInt number) else none) = some word ↔
        number = word.toInt := by
    by_cases fits : Text.fitsSigned 64 number = true
    · obtain ⟨low, high⟩ := (Text.fitsSigned_iff 64 number).mp fits
      rw [if_pos fits, Option.some_inj]
      constructor
      · rintro rfl
        exact (Int64.toInt_ofInt_of_le low high).symm
      · rintro rfl
        exact Int64.ofInt_toInt word
    · rw [if_neg fits]
      refine iff_of_false nofun ?_
      rintro rfl
      exact fits ((Text.fitsSigned_iff 64 _).mpr ⟨word.le_toInt, word.toInt_lt⟩)
  constructor
  · intro found
    unfold scalarInt64? at found
    split at found
    next number => exact (convert number).mp found ▸ .number number
    next text =>
      obtain ⟨number, spelled, found⟩ := Option.bind_eq_some_iff.mp found
      obtain rfl := (convert number).mp found
      obtain ⟨front, back, split, blankFront, blankBack⟩ :=
        Text.exists_eq_append_trimList Text.isBlank text.toList
      exact .text split blankFront blankBack (Text.integer?_eq_some_iff.mp spelled)
    next => exact absurd found nofun
  · intro spelled
    generalize same : word.toInt = number at spelled
    cases spelled with
    | number => exact (convert number).mpr same.symm
    | text split blankFront blankBack spelled =>
        rw [scalarInt64?, split, Text.trimList_numeral blankFront blankBack spelled,
          Text.integer?_eq_some_iff.mpr spelled]
        exact (convert number).mpr same.symm

theorem exists_scalarInt64 (value : Json) :
    (∃ word, scalarInt64? value = some word) ↔ IsInteger 64 value := by
  simp only [scalarInt64?_eq_some_iff, IsInteger]
  constructor
  · rintro ⟨word, spelled⟩
    exact ⟨word.toInt, spelled, word.le_toInt, word.toInt_lt⟩
  · rintro ⟨number, spelled, low, high⟩
    exact ⟨.ofInt number, (Int64.toInt_ofInt_of_le low high).symm ▸ spelled⟩

theorem exists_scalarInt32 (value : Json) :
    (∃ word, scalarInt64? value = some word ∧ ∃ narrow, narrow? word = some narrow) ↔
      IsInteger 32 value := by
  have fits (word : Int64) :
      (∃ narrow, narrow? word = some narrow) ↔ -2 ^ 31 ≤ word.toInt ∧ word.toInt < 2 ^ 31 := by
    rw [← Text.fitsSigned_iff 32, narrow?]
    split <;> simp_all
  simp only [scalarInt64?_eq_some_iff, fits, IsInteger]
  constructor
  · rintro ⟨word, spelled, bounds⟩
    exact ⟨word.toInt, spelled, bounds⟩
  · rintro ⟨number, spelled, low, high⟩
    have same : (Int64.ofInt number).toInt = number :=
      Int64.toInt_ofInt_of_le (by omega) (by omega)
    exact ⟨.ofInt number, by rwa [same], by rwa [same], by rwa [same]⟩

theorem toLower_eq_iff {text word : String} (small : word.toList.all Char.isLower = true) :
    text.toLower = word ↔ SameLetters text word := by
  rw [← String.toList_inj, Text.toList_toLower, SameLetters]
  generalize word.toList = letters at small
  induction text.toList generalizing letters with
  | nil => simp [List.forall₂_nil_left_iff, eq_comm]
  | cons character rest ih =>
      cases letters with
      | nil => simp [List.forall₂_nil_right_iff]
      | cons letter letters =>
          rw [List.all_cons, Bool.and_eq_true] at small
          rw [List.map_cons, List.cons.injEq, List.forall₂_cons, ih letters small.2,
            Text.toLower_eq_iff small.1]

theorem exists_scalarBool (value : Json) :
    (∃ truth, scalarBool? value = some truth) ↔ IsTruth value := by
  have isTrue (text : String) : text.toLower = "true" ↔ SameLetters text "true" :=
    toLower_eq_iff (by decide)
  have isFalse (text : String) : text.toLower = "false" ↔ SameLetters text "false" :=
    toLower_eq_iff (by decide)
  constructor
  · rintro ⟨truth, found⟩
    unfold scalarBool? at found
    split at found
    next => exact .bool _
    next text =>
      by_cases named : text.toLower = "true"
      · exact .name (by simp) ((isTrue text).mp named)
      · by_cases named : text.toLower = "false"
        · exact .name (by simp) ((isFalse text).mp named)
        · simp_all
    next => exact absurd found nofun
  · rintro (truth | ⟨known, same⟩)
    · exact ⟨truth, rfl⟩
    · rename_i text word
      simp only [List.mem_cons, List.not_mem_nil, or_false] at known
      rcases known with rfl | rfl
      · exact ⟨true, by simp [scalarBool?, (isTrue text).mpr same]⟩
      · exact ⟨false, by simp [scalarBool?, (isFalse text).mpr same]⟩

end Section

/-! ## Accessors -/

namespace Section

open Grammar

variable (part : Section) (name : String) {result : Type}

theorem exists_optional (expected : Expected) (convert : Json → Option result) :
    (∃ found, part.optional name expected convert = .ok found) ↔
      May part.members name fun value => ∃ converted, convert value = some converted := by
  rw [optional, get?, May]
  cases Json.present? part.members name with
  | none => exact iff_of_true ⟨none, rfl⟩ nofun
  | some value =>
      simp only [Option.some.injEq, forall_eq']
      cases convert value <;> simp

theorem exists_optional_some (expected : Expected) (convert : Json → Option result) :
    (∃ found, part.optional name expected convert = .ok (some found)) ↔
      Must part.members name fun value => ∃ converted, convert value = some converted := by
  rw [optional, get?, Must]
  cases Json.present? part.members name with
  | none => exact iff_of_false nofun nofun
  | some value =>
      simp only [Option.some.injEq, exists_eq_left']
      cases convert value <;> simp

theorem exists_required (attempt : Except ClassificationError (Option result)) :
    (∃ found, part.required name attempt = .ok found) ↔ ∃ found, attempt = .ok (some found) := by
  cases attempt with
  | error cause => exact iff_of_false nofun nofun
  | ok found => cases found <;> simp [required, bind, Except.bind]

theorem exists_optText :
    (∃ found, part.optText name = .ok found) ↔ May part.members name IsText := by
  simp only [optText, exists_optional, exists_scalarText]

theorem exists_requiredText :
    (∃ found, part.requiredText name = .ok found) ↔ Must part.members name IsText := by
  simp only [requiredText, optText, exists_required, exists_optional_some, exists_scalarText]

theorem requiredText_ok_iff (text : String) :
    part.requiredText name = .ok text ↔
      ∃ value, Json.present? part.members name = some value ∧ scalarText? value = some text := by
  simp only [requiredText, required, optText, optional, get?, bind_eq_ok_iff]
  cases Json.present? part.members name with
  | none => simp
  | some value =>
      simp only [Option.some.injEq, exists_eq_left']
      cases scalarText? value <;> simp

theorem exists_requiredText_ne_empty :
    (∃ text, part.requiredText name = .ok text ∧ text ≠ "") ↔
      Must part.members name fun value => IsText value ∧ value ≠ .string "" := by
  simp only [requiredText_ok_iff, Must, ← exists_scalarText]
  constructor
  · rintro ⟨text, ⟨value, present, read⟩, full⟩
    refine ⟨value, present, ⟨text, read⟩, fun empty => full ?_⟩
    exact Option.some.inj (read.symm.trans ((scalarText?_eq_some_empty_iff value).mpr empty))
  · rintro ⟨value, present, ⟨text, read⟩, full⟩
    refine ⟨text, ⟨value, present, read⟩, fun empty => full ?_⟩
    exact (scalarText?_eq_some_empty_iff value).mp (empty ▸ read)

theorem exists_optInt64 :
    (∃ found, part.optInt64 name = .ok found) ↔ May part.members name (IsInteger 64) := by
  simp only [optInt64, exists_optional, exists_scalarInt64]

theorem exists_requiredInt64 :
    (∃ found, part.requiredInt64 name = .ok found) ↔ Must part.members name (IsInteger 64) := by
  simp only [requiredInt64, optInt64, exists_required, exists_optional_some, exists_scalarInt64]

theorem exists_optInt32 :
    (∃ found, part.optInt32 name = .ok found) ↔ May part.members name (IsInteger 32) := by
  simp only [optInt32, optInt64, optional, get?, May, exists_ok_bind, ← exists_scalarInt32]
  cases Json.present? part.members name with
  | none => simp
  | some value =>
      simp only [Option.some.injEq, forall_eq']
      cases scalarInt64? value with
      | none => simp
      | some word => cases found : narrow? word <;> simp [found]

theorem exists_optBool :
    (∃ found, part.optBool name = .ok found) ↔ May part.members name IsTruth := by
  simp only [optBool, exists_optional, exists_scalarBool]

theorem optObject_ok_iff (found : Option Members) :
    part.optObject name = .ok found ↔
      Json.present? part.members name = found.map Json.object := by
  rw [optObject, optional, get?]
  cases Json.present? part.members name with
  | none => cases found <;> simp
  | some value => cases value <;> cases found <;> simp [Json.members?]

theorem exists_optObject :
    (∃ found, part.optObject name = .ok found) ↔
      May part.members name (IsObject fun _ => True) := by
  simp only [optObject, exists_optional]
  refine forall₂_congr fun value _ => ?_
  cases value <;> simp [IsObject, Json.members?]

/-- What is made of an object that may be there depends on whether it is. -/
theorem exists_optObject_bind {next : Option Members → Except ClassificationError result} :
    (∃ found, (part.optObject name >>= next) = .ok found) ↔
      (Json.present? part.members name = none ∧ ∃ found, next none = .ok found) ∨
        ∃ members, Json.present? part.members name = some (.object members) ∧
          ∃ found, next (some members) = .ok found := by
  simp only [exists_ok_bind, optObject_ok_iff, Option.exists, Option.map_none, Option.map_some]

theorem optArray_ok_iff (items : List Json) :
    part.optArray name = .ok items ↔
      Json.present? part.members name = none ∧ items = [] ∨
        Json.present? part.members name = some (.array items) := by
  rw [optArray, optional, get?]
  cases Json.present? part.members name with
  | none => simp [bind, Except.bind, pure, Except.pure, eq_comm]
  | some value => cases value <;> simp [Json.items?, bind, Except.bind, pure, Except.pure]

theorem exists_ofItem {next : Section → Except ClassificationError result} {path : Path}
    {item : Json} {AreRight : Members → Prop}
    (right : ∀ members, (∃ found, next ⟨path, members⟩ = .ok found) ↔ AreRight members) :
    (∃ found, (ofItem path item >>= next) = .ok found) ↔ IsObject AreRight item := by
  cases item with
  | object members =>
      refine (right members).trans ⟨fun areRight => ⟨members, rfl, areRight⟩, ?_⟩
      rintro ⟨_, same, areRight⟩
      cases same
      exact areRight
  | _ => exact iff_of_false nofun fun ⟨_, same, _⟩ => nomatch same

theorem exists_readItems {path : Path} {read : Path → Json → Except ClassificationError result}
    {IsRight : Json → Prop}
    (right : ∀ place item, (∃ found, read place item = .ok found) ↔ IsRight item) :
    (∃ items, part.optArray name = .ok items ∧ ∃ found, readItems path read items = .ok found) ↔
      May part.members name (IsArray IsRight) := by
  have all (items : List Json) :
      (∃ found, readItems path read items = .ok found) ↔ ∀ item ∈ items, IsRight item := by
    simp only [readItems, exists_ok_mapM, right]
    rw [← List.forall_mem_map (f := Prod.fst), List.zipIdx_map_fst]
  simp only [optArray_ok_iff, all, May, IsArray]
  cases Json.present? part.members name with
  | none => simp
  | some value => simp

theorem exists_jars : (∃ jars, part.jars name = .ok jars) ↔ May part.members name IsJarList := by
  have wrapped (members : Members) (path : Path) :
      (∃ items, JarList.items path (some (.object members)) = .ok items) ↔
        May members "jars" (IsArray fun _ => True) := by
    rw [JarList.items, May, Json.present?]
    cases members.lookup "jars" with
    | none => exact iff_of_true ⟨[], rfl⟩ nofun
    | some value => cases value <;> simp [IsArray, Json.isNull]
  refine exists_ok_map.trans ?_
  rw [get?, May]
  cases found : Json.present? part.members name with
  | none => exact iff_of_true ⟨[], rfl⟩ nofun
  | some value =>
      have present : value.isNull = false := by
        simpa using (Option.filter_eq_some_iff.mp found).2
      cases value with
      | null => exact absurd present nofun
      | array items => simp [JarList.items, IsJarList, IsArray]
      | object members => simp [wrapped, IsJarList, IsArray, IsObject]
      | _ => simp [JarList.items, IsJarList, IsArray, IsObject]

end Section
end JarLedger
