import JarLedger.Json.Numeral

/-!
# Reading JSON

The strict grammar: blanks are space, tab, line feed and carriage return only, control characters
stand in strings only as escapes, and surrogate escapes come in pairs.  At most `greatestDepth`
arrays and objects may be open at once.  `Json.read?` takes a whole text, with nothing after the
value but blanks.
-/

namespace JarLedger
namespace Json

/-- How many arrays and objects may be open at once. -/
def greatestDepth : Nat := 127

/-- The characters allowed between tokens. -/
def isBlank (character : Char) : Bool :=
  character = ' ' ∨ character = '\t' ∨ character = '\n' ∨ character = '\r'

/-- The text after its leading blanks. -/
def skipBlanks (text : List Char) : List Char := text.dropWhile isBlank

theorem length_lt_of_skipBlanks {text rest : List Char} {mark : Char} {limit : Nat}
    (short : text.length ≤ limit) (skipped : skipBlanks text = mark :: rest) :
    rest.length < limit := by
  have shorter := Text.length_dropWhile_le isBlank text
  rw [show text.dropWhile isBlank = mark :: rest from skipped, List.length_cons] at shorter
  omega

/-- Value of a hexadecimal digit in either case. -/
def hexValue? (digit : Char) : Option Nat :=
  if digit.isDigit then some (digit.toNat - '0'.toNat)
  else if 'a' ≤ digit ∧ digit ≤ 'f' then some (digit.toNat - 'a'.toNat + 10)
  else if 'A' ≤ digit ∧ digit ≤ 'F' then some (digit.toNat - 'A'.toNat + 10)
  else none

/-- Value of four hexadecimal digits. -/
def codeUnit? (first second third fourth : Char) : Option Nat := do
  return (((← hexValue? first) * 16 + (← hexValue? second)) * 16 + (← hexValue? third)) * 16 +
    (← hexValue? fourth)

/-- Whether a code unit is the first half of a pair. -/
def isHighSurrogate (unit : Nat) : Bool := 0xD800 ≤ unit ∧ unit < 0xDC00

/-- Whether a code unit is the second half of a pair. -/
def isLowSurrogate (unit : Nat) : Bool := 0xDC00 ≤ unit ∧ unit < 0xE000

/-- Character of a pair of surrogates. -/
def pairedChar (high low : Nat) : Char :=
  Char.ofNat (0x10000 + (high - 0xD800) * 0x400 + (low - 0xDC00))

/-- Character of a one-letter escape. -/
def escapedChar? : Char → Option Char
  | '"' => some '"'
  | '\\' => some '\\'
  | '/' => some '/'
  | 'b' => some '\x08'
  | 'f' => some '\x0c'
  | 'n' => some '\n'
  | 'r' => some '\r'
  | 't' => some '\t'
  | _ => none

/-- The code unit that four digits at the front of a text spell. -/
def unit? : List Char → Option (Nat × List Char)
  | first :: second :: third :: fourth :: text =>
      (codeUnit? first second third fourth).map fun unit => (unit, text)
  | _ => none

theorem leaves_unit? (text : List Char) : Text.Leaves text.length (unit? text) := by
  unfold unit?
  split
  · refine Text.leaves_pair fun unit => ?_
    simp only [List.length_cons]
    omega
  · exact Text.leaves_none

/-- The character of a pair, of which the first half is read. -/
def paired? (high : Nat) : List Char → Option (Char × List Char)
  | '\\' :: 'u' :: text => do
      let (low, text) ← unit? text
      if isLowSurrogate low then some (pairedChar high low, text) else none
  | _ => none

theorem leaves_paired? (high : Nat) (text : List Char) :
    Text.Leaves text.length (paired? high text) := by
  unfold paired?
  split
  · refine Text.leaves_bind (leaves_unit? _) fun low rest left => ?_
    dsimp only
    split
    · refine Text.leaves_some ?_
      simp only [List.length_cons]
      omega
    · exact Text.leaves_none
  · exact Text.leaves_none

/-- The character that follows a backslash, and the text after it. -/
def escape? : List Char → Option (Char × List Char)
  | 'u' :: text => do
      let (unit, text) ← unit? text
      if isHighSurrogate unit then paired? unit text
      else if isLowSurrogate unit then none
      else some (Char.ofNat unit, text)
  | letter :: text => (escapedChar? letter).map fun character => (character, text)
  | [] => none

theorem leaves_escape? (text : List Char) : Text.Leaves text.length (escape? text) := by
  unfold escape?
  split
  · refine Text.leaves_bind (leaves_unit? _) fun unit rest left => ?_
    dsimp only
    rw [List.length_cons]
    split
    · exact (leaves_paired? unit rest).mono (by omega)
    · split
      · exact Text.leaves_none
      · exact Text.leaves_some (by omega)
  · exact Text.leaves_pair fun _ => Nat.lt_succ_self _
  · exact Text.leaves_none

/-- The rest of a string up to its closing quote; `taken` holds the characters read, last first. -/
def quoted? (taken : List Char) (text : List Char) : Option (String × List Char) :=
  match text with
  | [] => none
  | '"' :: rest => some (String.ofList taken.reverse, rest)
  | '\\' :: rest =>
      match _read : escape? rest with
      | none => none
      | some (character, after) => quoted? (character :: taken) after
  | character :: rest => if character < ' ' then none else quoted? (character :: taken) rest
termination_by text.length
decreasing_by
  · exact Nat.lt_succ_of_lt (leaves_escape? rest _ _ _read)
  · simp

theorem leaves_quoted? (taken text : List Char) {limit : Nat} (short : text.length ≤ limit) :
    Text.Leaves limit (quoted? taken text) := by
  fun_induction quoted? taken text with
  | case1 => exact Text.leaves_none
  | case2 taken rest => exact Text.leaves_some short
  | case3 => exact Text.leaves_none
  | case4 taken rest character after read ih =>
      have shorter := leaves_escape? rest _ _ read
      rw [List.length_cons] at short
      exact ih (by omega)
  | case5 => exact Text.leaves_none
  | case6 taken character rest _ _ _ ih =>
      rw [List.length_cons] at short
      exact ih (by omega)

/-- Items between commas up to a closing mark; `taken` holds those read, last first. -/
def separated? {α : Type} (item : Text.Reader α) (close : Char) (taken : List α)
    (text : List Char) : Option (List α × List Char) :=
  match _read : item.read? text with
  | none => none
  | some (value, rest) =>
      match _skipped : skipBlanks rest with
      | [] => none
      | mark :: after =>
          if mark = close then some ((value :: taken).reverse, after)
          else if mark = ',' then separated? item close (value :: taken) after
          else none
termination_by text.length
decreasing_by exact length_lt_of_skipBlanks (Nat.le_of_lt (item.leaves text _ _ _read)) _skipped

theorem leaves_separated? {α : Type} (item : Text.Reader α) (close : Char) (taken : List α)
    (text : List Char) : Text.Leaves text.length (separated? item close taken text) := by
  fun_induction separated? item close taken text with
  | case1 => exact Text.leaves_none
  | case2 => exact Text.leaves_none
  | case3 taken text value rest read after skipped =>
      have shorter := Nat.le_of_lt (item.leaves text _ _ read)
      exact Text.leaves_some (length_lt_of_skipBlanks shorter skipped)
  | case4 taken text value rest read after skipped _ ih =>
      have shorter := length_lt_of_skipBlanks (Nat.le_of_lt (item.leaves text _ _ read)) skipped
      exact ih.mono (Nat.le_of_lt shorter)
  | case5 => exact Text.leaves_none

/-- What stands inside brackets, of which the opening one is read: nothing, or separated items. -/
def bracketed? {α : Type} (item : Text.Reader α) (close : Char) (text : List Char) :
    Option (List α × List Char) :=
  match skipBlanks text with
  | [] => none
  | mark :: after => if mark = close then some ([], after) else separated? item close [] text

theorem leaves_bracketed? {α : Type} (item : Text.Reader α) (close : Char) (text : List Char) :
    Text.Leaves text.length (bracketed? item close text) := by
  unfold bracketed?
  split
  · exact Text.leaves_none
  · next skipped =>
    split
    · exact Text.leaves_some (length_lt_of_skipBlanks (Nat.le_refl _) skipped)
    · exact leaves_separated? item close [] text

/-- The value that a colon gives to a name which is read. -/
def named? (item : Text.Reader Json) (name : String) (text : List Char) :
    Option ((String × Json) × List Char) :=
  match skipBlanks text with
  | ':' :: text => (item.read? text).map fun (value, text) => ((name, value), text)
  | _ => none

theorem leaves_named? (item : Text.Reader Json) (name : String) (text : List Char) :
    Text.Leaves text.length (named? item name text) := by
  unfold named?
  split
  · next skipped =>
    have shorter := length_lt_of_skipBlanks (Nat.le_refl _) skipped
    exact Text.leaves_map (fun _ => rfl) ((item.leaves _).mono (Nat.le_of_lt shorter))
  · exact Text.leaves_none

/-- The member at the front of a text. -/
def member? (item : Text.Reader Json) (text : List Char) : Option ((String × Json) × List Char) :=
  match skipBlanks text with
  | '"' :: text => do
      let (name, text) ← quoted? [] text
      named? item name text
  | _ => none

theorem leaves_member? (item : Text.Reader Json) (text : List Char) :
    Text.Leaves text.length (member? item text) := by
  unfold member?
  split
  · next skipped =>
    have shorter := length_lt_of_skipBlanks (Nat.le_refl _) skipped
    refine Text.leaves_bind (leaves_quoted? [] _ (Nat.le_refl _)) fun name rest left => ?_
    exact (leaves_named? item name rest).mono (by omega)
  · exact Text.leaves_none

/-- The members of an object, whose values are read by `item`. -/
def memberReader (item : Text.Reader Json) : Text.Reader (String × Json) :=
  ⟨member? item, leaves_member? item⟩

/-- The value at the front of a text that starts with no blank.  What stands in brackets is read by
`item`, without which no bracket may be opened. -/
def front? (item : Option (Text.Reader Json)) (text : List Char) : Option (Json × List Char) :=
  match text, item with
  | 'n' :: 'u' :: 'l' :: 'l' :: rest, _ => some (.null, rest)
  | 't' :: 'r' :: 'u' :: 'e' :: rest, _ => some (.bool true, rest)
  | 'f' :: 'a' :: 'l' :: 's' :: 'e' :: rest, _ => some (.bool false, rest)
  | '"' :: rest, _ => (quoted? [] rest).map fun (text, rest) => (.string text, rest)
  | '[' :: _, none => none
  | '[' :: rest, some item =>
      (bracketed? item ']' rest).map fun (items, rest) => (.array items, rest)
  | '{' :: _, none => none
  | '{' :: rest, some item =>
      (bracketed? (memberReader item) '}' rest).map fun (members, rest) => (ofMembers members, rest)
  | rest, _ => (Numeral.read? rest).map fun (numeral, rest) => (.number numeral, rest)

theorem leaves_front? (item : Option (Text.Reader Json)) (text : List Char) :
    Text.Leaves text.length (front? item text) := by
  unfold front?
  split
  · exact Text.leaves_some (by simp only [List.length_cons]; omega)
  · exact Text.leaves_some (by simp only [List.length_cons]; omega)
  · exact Text.leaves_some (by simp only [List.length_cons]; omega)
  · exact Text.leaves_map (fun _ => rfl) (leaves_quoted? [] _ (Nat.le_succ _))
  · exact Text.leaves_none
  · exact Text.leaves_map (fun _ => rfl) ((leaves_bracketed? _ _ _).mono (Nat.le_succ _))
  · exact Text.leaves_none
  · exact Text.leaves_map (fun _ => rfl) ((leaves_bracketed? _ _ _).mono (Nat.le_succ _))
  · exact Text.leaves_map (fun _ => rfl) (Numeral.leaves_read? _)

/-- Read a value that may have blanks before it. -/
def reader (item : Option (Text.Reader Json)) : Text.Reader Json :=
  ⟨fun text => front? item (skipBlanks text), fun text =>
    (leaves_front? item _).mono (Text.length_dropWhile_le isBlank text)⟩

/-- Read a value with at most `depth` arrays and objects open at once. -/
def value : (depth : Nat) → Text.Reader Json
  | 0 => reader none
  | depth + 1 => reader (some (value depth))

/-- The value of a whole text with at most `depth` arrays and objects open at once. -/
def readDeep? (depth : Nat) (text : String) : Option Json := do
  let (value, rest) ← (value depth).read? text.toList
  if (skipBlanks rest).isEmpty then some value else none

/-- The value of a whole text. -/
def read? (text : String) : Option Json := readDeep? greatestDepth text

end Json
end JarLedger
