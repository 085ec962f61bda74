import JarLedger.Json.Reader

/-!
# TOML strings

A basic string stands in double quotes and has escapes, a literal one in single quotes and has none.
Tripled quotes make a string of several lines: a line feed right after the opening is dropped, a
carriage return before a line feed is dropped, and up to two quotes may stand next to the closing.
In a basic string of several lines a backslash at the end of a line takes away the blanks and line
ends after it.
-/

namespace JarLedger
namespace Toml
namespace Quoted

/-- Whether a character may stand in a comment or a string as it is. -/
def isPlain (character : Char) : Bool :=
  character = '\t' || (' ' ≤ character && character ≠ '\x7f')

/-- Whether a character is a blank within a line. -/
def isSpace (character : Char) : Bool := character = ' ' || character = '\t'

/-- The text after a line end at its front. -/
def lineFeed? : List Char → Option (List Char)
  | '\n' :: rest => some rest
  | '\r' :: '\n' :: rest => some rest
  | _ => none

theorem length_lineFeed? {text rest : List Char} (ended : lineFeed? text = some rest) :
    rest.length < text.length := by
  unfold lineFeed? at ended
  split at ended
  · obtain rfl := Option.some.inj ended
    exact Nat.lt_succ_self _
  · obtain rfl := Option.some.inj ended
    exact Nat.lt_succ_of_lt (Nat.lt_succ_self _)
  · cases ended

/-- Character of a hexadecimal code. -/
def coded? (figures : List Char) : Option Char := do
  let values ← figures.mapM Json.hexValue?
  let code := values.foldl (fun (code : Nat) value => code * 16 + value) 0
  if code.isValidChar then some (Char.ofNat code) else none

/-- Character of an escape, of which the backslash is read, and the text after it. -/
def escape? : List Char → Option (Char × List Char)
  | 'e' :: rest => some ('\x1b', rest)
  | 'x' :: rest => if rest.length < 2 then none else (coded? (rest.take 2)).map (·, rest.drop 2)
  | 'u' :: rest => if rest.length < 4 then none else (coded? (rest.take 4)).map (·, rest.drop 4)
  | 'U' :: rest => if rest.length < 8 then none else (coded? (rest.take 8)).map (·, rest.drop 8)
  | '/' :: _ => none
  | letter :: rest => (Json.escapedChar? letter).map (·, rest)
  | [] => none

theorem leaves_escape? (text : List Char) : Text.Leaves text.length (escape? text) := by
  unfold escape?
  split
  · exact Text.leaves_some (Nat.lt_succ_self _)
  · split
    · exact Text.leaves_none
    · refine Text.leaves_pair fun _ => ?_
      rw [List.length_drop, List.length_cons]
      omega
  · split
    · exact Text.leaves_none
    · refine Text.leaves_pair fun _ => ?_
      rw [List.length_drop, List.length_cons]
      omega
  · split
    · exact Text.leaves_none
    · refine Text.leaves_pair fun _ => ?_
      rw [List.length_drop, List.length_cons]
      omega
  · exact Text.leaves_none
  · exact Text.leaves_pair fun _ => Nat.lt_succ_self _
  · exact Text.leaves_none

/-- The text after blanks and line ends at its front. -/
def skipLines : List Char → List Char
  | [] => []
  | '\r' :: '\n' :: rest => skipLines rest
  | character :: rest =>
      if isSpace character ∨ character = '\n' then skipLines rest else character :: rest

theorem length_skipLines_le (text : List Char) : (skipLines text).length ≤ text.length := by
  fun_induction skipLines text with
  | case1 => exact Nat.le_refl _
  | case2 rest ih =>
      simp only [List.length_cons]
      omega
  | case3 character rest _ _ ih => exact Nat.le_succ_of_le ih
  | case4 => exact Nat.le_refl _

/-- The text after a backslash that ends its line, and after the blanks that this takes away. -/
def continuation? (text : List Char) : Option (List Char) :=
  (lineFeed? (text.dropWhile isSpace)).map skipLines

theorem length_continuation? {text rest : List Char} (ended : continuation? text = some rest) :
    rest.length < text.length := by
  obtain ⟨line, found, rfl⟩ := Option.map_eq_some_iff.mp ended
  have spaces := Text.length_dropWhile_le isSpace text
  have feed := length_lineFeed? found
  have lines := length_skipLines_le line
  omega

/-- The rest of a basic string on one line up to its closing quote; `taken` holds the characters
read, last first. -/
def basic? (taken : List Char) (text : List Char) : Option (String × List Char) :=
  match text with
  | [] => none
  | '"' :: rest => some (String.ofList taken.reverse, rest)
  | '\\' :: rest =>
      match _read : escape? rest with
      | none => none
      | some (character, after) => basic? (character :: taken) after
  | character :: rest => if isPlain character then basic? (character :: taken) rest else none
termination_by text.length
decreasing_by
  · exact Nat.lt_succ_of_lt (leaves_escape? rest _ _ _read)
  · exact Nat.lt_succ_self _

theorem leaves_basic? (taken text : List Char) {limit : Nat} (short : text.length ≤ limit) :
    Text.Leaves limit (basic? taken text) := by
  fun_induction basic? taken text with
  | case1 => exact Text.leaves_none
  | case2 taken rest => exact Text.leaves_some short
  | case3 => exact Text.leaves_none
  | case4 taken rest character after read ih =>
      have shorter := leaves_escape? rest _ _ read
      rw [List.length_cons] at short
      exact ih (by omega)
  | case5 taken character rest _ _ _ ih => exact ih (Nat.le_of_succ_le short)
  | case6 => exact Text.leaves_none

/-- The rest of a literal string on one line up to its closing quote. -/
def literal? : List Char → Option (String × List Char)
  | [] => none
  | '\'' :: rest => some ("", rest)
  | character :: rest =>
      if isPlain character then
        (literal? rest).map fun (text, rest) => (String.ofList (character :: text.toList), rest)
      else none

theorem leaves_literal? (text : List Char) : Text.Leaves text.length (literal? text) := by
  fun_induction literal? text with
  | case1 => exact Text.leaves_none
  | case2 => exact Text.leaves_some (Nat.lt_succ_self _)
  | case3 character rest _ _ ih =>
      exact Text.leaves_map (fun _ => rfl) (ih.mono (Nat.le_succ _))
  | case4 => exact Text.leaves_none

/-- Quotes at the end of a string of several lines, of which three close it: those that belong to
the string, and the text after them. -/
def closing (quote : Char) (text : List Char) : Option (List Char × List Char) :=
  match text with
  | first :: second :: third :: rest =>
      if first = quote ∧ second = quote ∧ third = quote then
        match rest with
        | fourth :: fifth :: after =>
            if fourth = quote ∧ fifth = quote then some ([quote, quote], after)
            else if fourth = quote then some ([quote], fifth :: after)
            else some ([], rest)
        | [fourth] => if fourth = quote then some ([quote], []) else some ([], rest)
        | [] => some ([], [])
      else none
  | _ => none

theorem leaves_closing (quote : Char) (text : List Char) :
    Text.Leaves text.length (closing quote text) := by
  unfold closing
  split
  · split
    · split
      · split
        · exact Text.leaves_some (by simp only [List.length_cons]; omega)
        · split
          · exact Text.leaves_some (by simp only [List.length_cons]; omega)
          · exact Text.leaves_some (by simp only [List.length_cons]; omega)
      · split
        · exact Text.leaves_some (by simp only [List.length_cons, List.length_nil]; omega)
        · exact Text.leaves_some (by simp only [List.length_cons]; omega)
      · exact Text.leaves_some (by simp only [List.length_cons, List.length_nil]; omega)
    · exact Text.leaves_none
  · exact Text.leaves_none

/-- The rest of a string of several lines up to its closing quotes.  `quote` is its quote, and
`hasEscapes` says whether a backslash is special. -/
def lines? (quote : Char) (hasEscapes : Bool) (taken : List Char) (text : List Char) :
    Option (String × List Char) :=
  match closing quote text with
  | some (quotes, rest) => some (String.ofList (taken.reverse ++ quotes), rest)
  | none =>
      match text with
      | [] => none
      | '\r' :: '\n' :: rest => lines? quote hasEscapes ('\n' :: taken) rest
      | '\n' :: rest => lines? quote hasEscapes ('\n' :: taken) rest
      | character :: rest =>
          if character = '\\' ∧ hasEscapes then
            match _read : continuation? rest with
            | some after => lines? quote hasEscapes taken after
            | none =>
                match _read : escape? rest with
                | none => none
                | some (escaped, after) => lines? quote hasEscapes (escaped :: taken) after
          else if isPlain character then lines? quote hasEscapes (character :: taken) rest
          else none
termination_by text.length
decreasing_by
  · exact Nat.lt_succ_of_lt (Nat.lt_succ_self _)
  · exact Nat.lt_succ_self _
  · exact Nat.lt_succ_of_lt (length_continuation? _read)
  · exact Nat.lt_succ_of_lt (leaves_escape? rest _ _ _read)
  · exact Nat.lt_succ_self _

theorem leaves_lines? (quote : Char) (hasEscapes : Bool) (taken text : List Char) {limit : Nat}
    (short : text.length ≤ limit) : Text.Leaves limit (lines? quote hasEscapes taken text) := by
  fun_induction lines? quote hasEscapes taken text with
  | case1 taken text quotes rest found =>
      exact Text.leaves_some (Nat.lt_of_lt_of_le (leaves_closing quote text _ _ found) short)
  | case2 => exact Text.leaves_none
  | case3 taken rest _ ih =>
      simp only [List.length_cons] at short
      exact ih (by omega)
  | case4 taken rest _ ih => exact ih (Nat.le_of_succ_le short)
  | case5 taken character rest _ _ _ after read _ ih =>
      have shorter := length_continuation? read
      rw [List.length_cons] at short
      exact ih (by omega)
  | case6 => exact Text.leaves_none
  | case7 taken character rest _ _ _ _ escaped after read _ ih =>
      have shorter := leaves_escape? rest _ _ read
      rw [List.length_cons] at short
      exact ih (by omega)
  | case8 taken character rest _ _ _ _ _ ih => exact ih (Nat.le_of_succ_le short)
  | case9 => exact Text.leaves_none

/-- The text after the first line feed of a string of several lines, if it starts with one. -/
def afterOpening (text : List Char) : List Char := (lineFeed? text).getD text

theorem length_afterOpening_le (text : List Char) :
    (afterOpening text).length ≤ text.length := by
  unfold afterOpening
  cases found : lineFeed? text with
  | none => exact Nat.le_refl _
  | some rest => exact Nat.le_of_lt (length_lineFeed? found)

/-- The string on one line at the front of a text. -/
def readLine? : List Char → Option (String × List Char)
  | '"' :: rest => basic? [] rest
  | '\'' :: rest => literal? rest
  | _ => none

theorem leaves_readLine? (text : List Char) : Text.Leaves text.length (readLine? text) := by
  unfold readLine?
  split
  · exact leaves_basic? [] _ (Nat.le_succ _)
  · exact (leaves_literal? _).mono (Nat.le_succ _)
  · exact Text.leaves_none

/-- The string at the front of a text. -/
def read? : List Char → Option (String × List Char)
  | '"' :: '"' :: '"' :: rest => lines? '"' true [] (afterOpening rest)
  | '\'' :: '\'' :: '\'' :: rest => lines? '\'' false [] (afterOpening rest)
  | text => readLine? text

theorem leaves_read? (text : List Char) : Text.Leaves text.length (read? text) := by
  unfold read?
  split
  · next rest =>
    have shorter := length_afterOpening_le rest
    exact leaves_lines? _ _ _ _ (by simp only [List.length_cons]; omega)
  · next rest =>
    have shorter := length_afterOpening_le rest
    exact leaves_lines? _ _ _ _ (by simp only [List.length_cons]; omega)
  · exact leaves_readLine? _

end Quoted
end Toml
end JarLedger
