import JarLedger.Toml.Bare
import JarLedger.Toml.Quoted
import JarLedger.Toml.Table

/-!
# Reading TOML

A document is a list of lines, each a header, a named value or nothing, and each with an optional
comment.  Arrays and tables in braces may go over several lines, hold comments and end in a comma.
At most `greatestDepth` of them may be open at once.
-/

namespace JarLedger
namespace Toml

/-- How many arrays and tables in braces may be open at once. -/
def greatestDepth : Nat := 79

/-- The text after its leading blanks. -/
def skipSpaces (text : List Char) : List Char := text.dropWhile Quoted.isSpace

/-- The text after blanks, line ends and comments; `inComment` says whether it starts inside one. -/
def skipGaps (inComment : Bool) : List Char → List Char
  | [] => []
  | character :: rest =>
      if inComment && Quoted.isPlain character then skipGaps true rest
      else if Quoted.isSpace character ∨ character = '\n' then skipGaps false rest
      else if character = '\r' ∧ rest.head? = some '\n' then skipGaps false rest
      else if character = '#' then skipGaps true rest
      else character :: rest

theorem length_skipSpaces_le (text : List Char) : (skipSpaces text).length ≤ text.length :=
  Text.length_dropWhile_le Quoted.isSpace text

theorem length_lt_of_skipSpaces {text rest : List Char} {mark : Char}
    (skipped : skipSpaces text = mark :: rest) : rest.length < text.length := by
  have shorter := length_skipSpaces_le text
  rw [skipped] at shorter
  exact shorter

theorem length_skipGaps_le (inComment : Bool) (text : List Char) :
    (skipGaps inComment text).length ≤ text.length := by
  induction text generalizing inComment with
  | nil => exact Nat.le_refl _
  | cons character rest ih =>
      unfold skipGaps
      split
      · exact Nat.le_succ_of_le (ih true)
      · split
        · exact Nat.le_succ_of_le (ih false)
        · split
          · exact Nat.le_succ_of_le (ih false)
          · split
            · exact Nat.le_succ_of_le (ih true)
            · exact Nat.le_refl _

theorem length_lt_of_skipGaps {text rest : List Char} {mark : Char}
    (skipped : skipGaps false text = mark :: rest) : rest.length < text.length := by
  have shorter := length_skipGaps_le false text
  rw [skipped] at shorter
  exact shorter

/-- The text after a comment, if one stands at its front. -/
def skipComment (text : List Char) : List Char :=
  if text.head? = some '#' then text.dropWhile Quoted.isPlain else text

theorem length_skipComment_le (text : List Char) :
    (skipComment text).length ≤ text.length := by
  unfold skipComment
  split
  · exact Text.length_dropWhile_le Quoted.isPlain text
  · exact Nat.le_refl _

/-- The text after the end of a line, before which a comment may stand.  The end of the text is
the end of its last line. -/
def lineEnd? (text : List Char) : Option (List Char) :=
  match skipComment (skipSpaces text) with
  | [] => some []
  | rest => Quoted.lineFeed? rest

/-- Nothing is left of the last line; any other has taken its line feed. -/
theorem length_lineEnd? {text rest : List Char} (ended : lineEnd? text = some rest) :
    rest = [] ∨ rest.length < text.length := by
  have spaces := length_skipSpaces_le text
  have comment := length_skipComment_le (skipSpaces text)
  unfold lineEnd? at ended
  split at ended
  · exact .inl (Option.some.inj ended).symm
  · have feed := Quoted.length_lineFeed? ended
    exact .inr (by omega)

/-! ## Keys -/

/-- Whether a character may stand in a name without quotes. -/
def isNamePart (character : Char) : Bool :=
  character.isAlphanum || character = '_' || character = '-'

/-- The name at the front of a text. -/
def name? (text : List Char) : Option (String × List Char) :=
  match text.takeWhile isNamePart with
  | [] => Quoted.readLine? text
  | name => some (String.ofList name, text.dropWhile isNamePart)

theorem leaves_name? (text : List Char) : Text.Leaves text.length (name? text) := by
  unfold name?
  split
  · exact Quoted.leaves_readLine? text
  · next taken => exact Text.leaves_some (Text.length_dropWhile_lt taken)

/-- The key at the front of a text: names with dots between them, first the path that leads to the
last name.  Blanks may stand around names. -/
def key? (text : List Char) : Option ((List String × String) × List Char) :=
  match _read : name? (skipSpaces text) with
  | none => none
  | some (name, rest) =>
      match _skipped : skipSpaces rest with
      | '.' :: after => (key? after).map fun (key, rest) => ((name :: key.1, key.2), rest)
      | rest => some (([], name), rest)
termination_by text.length
decreasing_by
  have spaces := length_skipSpaces_le text
  have name := leaves_name? _ _ _ _read
  have dot := length_lt_of_skipSpaces _skipped
  omega

theorem leaves_key? (text : List Char) : Text.Leaves text.length (key? text) := by
  fun_induction key? text with
  | case1 => exact Text.leaves_none
  | case2 text name rest read after skipped ih =>
      have spaces := length_skipSpaces_le text
      have name := leaves_name? _ _ _ read
      have dot := length_lt_of_skipSpaces skipped
      exact Text.leaves_map (fun _ => rfl) (ih.mono (by omega))
  | case3 text name rest read =>
      have spaces := length_skipSpaces_le text
      have name := leaves_name? _ _ _ read
      have more := length_skipSpaces_le rest
      exact Text.leaves_some (by omega)

/-! ## Values -/

/-- Items between commas up to a closing mark, before which a comma may stand; `taken` holds those
read, last first. -/
def listed? {α : Type} (item : Text.Reader α) (close : Char) (taken : List α) (text : List Char) :
    Option (List α × List Char) :=
  match _opened : skipGaps false text with
  | [] => none
  | mark :: rest =>
      if mark = close then some (taken.reverse, rest)
      else
        match _read : item.read? (mark :: rest) with
        | none => none
        | some (value, rest) =>
            match _skipped : skipGaps false rest with
            | [] => none
            | mark :: rest =>
                if mark = close then some ((value :: taken).reverse, rest)
                else if mark = ',' then listed? item close (value :: taken) rest
                else none
termination_by text.length
decreasing_by
  have gaps := length_skipGaps_le false text
  rw [_opened] at gaps
  have value := item.leaves _ _ _ _read
  have comma := length_lt_of_skipGaps _skipped
  omega

theorem leaves_listed? {α : Type} (item : Text.Reader α) (close : Char) (taken : List α)
    (text : List Char) : Text.Leaves text.length (listed? item close taken text) := by
  fun_induction listed? item close taken text with
  | case1 => exact Text.leaves_none
  | case2 taken text rest opened => exact Text.leaves_some (length_lt_of_skipGaps opened)
  | case3 => exact Text.leaves_none
  | case4 => exact Text.leaves_none
  | case5 taken text mark rest opened _ value after read more skipped =>
      have gaps := length_skipGaps_le false text
      rw [opened] at gaps
      have value := item.leaves _ _ _ read
      have bracket := length_lt_of_skipGaps skipped
      exact Text.leaves_some (by omega)
  | case6 taken text mark rest opened _ value after read more skipped _ ih =>
      have gaps := length_skipGaps_le false text
      rw [opened] at gaps
      have value := item.leaves _ _ _ read
      have comma := length_lt_of_skipGaps skipped
      exact ih.mono (by omega)
  | case7 => exact Text.leaves_none

/-- A named value, read by `item`. -/
def pair? (item : Text.Reader Value) (text : List Char) : Option (Entry × List Char) := do
  let ((path, name), rest) ← key? text
  let rest ← Instant.expect? '=' rest
  let (value, rest) ← item.read? (skipSpaces rest)
  return (.pair path name value, skipSpaces rest)

theorem leaves_pair? (item : Text.Reader Value) (text : List Char) :
    Text.Leaves text.length (pair? item text) := by
  refine Text.leaves_bind (leaves_key? text) fun key rest left => ?_
  refine Text.leaves_given fun after found => ?_
  have mark := Instant.length_expect? found
  have spaces := length_skipSpaces_le after
  refine Text.leaves_bind (item.leaves _) fun value rest short => ?_
  have more := length_skipSpaces_le rest
  exact Text.leaves_some (by omega)

/-- Read a named value, whose value is read by `item`. -/
def pairReader (item : Text.Reader Value) : Text.Reader Entry := ⟨pair? item, leaves_pair? item⟩

/-- What stands inside braces, of which the opening one is read. -/
def members? (item : Text.Reader Value) (text : List Char) : Option (Members × List Char) := do
  let (pairs, rest) ← listed? (pairReader item) '\x7d' [] text
  let members ← Members.ofEntries? pairs
  return (members, rest)

theorem leaves_members? (item : Text.Reader Value) (text : List Char) :
    Text.Leaves text.length (members? item text) :=
  Text.leaves_bind (leaves_listed? _ _ _ _) fun _ _ left =>
    Text.leaves_given fun _ _ => Text.leaves_some left

/-- The value at the front of a text.  What stands in brackets or braces is read by `item`, without
which none may be opened. -/
def front? (item : Option (Text.Reader Value)) (text : List Char) : Option (Value × List Char) :=
  match text, item with
  | '[' :: _, none => none
  | '[' :: rest, some item =>
      (listed? item ']' [] rest).map fun (items, rest) => (.array items, rest)
  | '{' :: _, none => none
  | '{' :: rest, some item =>
      (members? item rest).map fun (members, rest) => (.table .inline members, rest)
  | text, _ =>
      if text.head? = some '"' ∨ text.head? = some '\'' then
        (Quoted.read? text).map fun (text, rest) => (.text text, rest)
      else Bare.value? text

theorem leaves_front? (item : Option (Text.Reader Value)) (text : List Char) :
    Text.Leaves text.length (front? item text) := by
  unfold front?
  split
  · exact Text.leaves_none
  · exact Text.leaves_map (fun _ => rfl) ((leaves_listed? _ _ _ _).mono (Nat.le_succ _))
  · exact Text.leaves_none
  · exact Text.leaves_map (fun _ => rfl) ((leaves_members? _ _).mono (Nat.le_succ _))
  · split
    · exact Text.leaves_map (fun _ => rfl) (Quoted.leaves_read? _)
    · exact Bare.leaves_value? _

/-- Read a value with at most `depth` arrays and tables in braces open at once. -/
def value : (depth : Nat) → Text.Reader Value
  | 0 => ⟨front? none, leaves_front? none⟩
  | depth + 1 => ⟨front? (some (value depth)), leaves_front? (some (value depth))⟩

/-! ## Documents -/

/-- The key of a header up to its closing bracket. -/
def headerKey? (text : List Char) : Option ((List String × String) × List Char) := do
  let (key, rest) ← key? text
  return (key, ← Instant.expect? ']' rest)

theorem leaves_headerKey? (text : List Char) : Text.Leaves text.length (headerKey? text) := by
  refine Text.leaves_bind (leaves_key? text) fun key rest left => ?_
  refine Text.leaves_given fun after found => ?_
  have mark := Instant.length_expect? found
  exact Text.leaves_some (by omega)

/-- What the line at the front of a text says, if it says anything, and the text from its end on. -/
def statement? (text : List Char) : Option (Option Entry × List Char) := do
  match skipSpaces text with
  | '[' :: '[' :: rest =>
      let ((path, name), rest) ← headerKey? rest
      return (some (.repeatedHeader path name), ← Instant.expect? ']' rest)
  | '[' :: rest =>
      let ((path, name), rest) ← headerKey? rest
      return (some (.header path name), rest)
  | start =>
      if (lineEnd? start).isSome then return (none, start)
      else
        let (pair, rest) ← pair? (value greatestDepth) start
        return (some pair, rest)

theorem leaves_statement? (text : List Char) :
    Text.Leaves (text.length + 1) (statement? text) := by
  unfold statement?
  split
  · next rest skipped =>
    have spaces := length_lt_of_skipSpaces skipped
    rw [List.length_cons] at spaces
    refine Text.leaves_bind (leaves_headerKey? rest) fun key rest left => ?_
    refine Text.leaves_given fun after found => ?_
    have mark := Instant.length_expect? found
    exact Text.leaves_some (by omega)
  · next rest _ skipped =>
    have spaces := length_lt_of_skipSpaces skipped
    refine Text.leaves_bind (leaves_headerKey? rest) fun key rest left => ?_
    exact Text.leaves_some (by omega)
  · have spaces := length_skipSpaces_le text
    split
    · exact Text.leaves_some (Nat.lt_succ_of_le spaces)
    · refine Text.leaves_bind (leaves_pair? _ _) fun pair rest left => ?_
      exact Text.leaves_some (by omega)

/-- What the line at the front of a text says, if it says anything. -/
def line? (text : List Char) : Option (Option Entry × List Char) := do
  let (entry, rest) ← statement? text
  return (entry, ← lineEnd? rest)

/-- A line that is not empty takes something from the text. -/
theorem leaves_line? {text : List Char} (nonempty : text ≠ []) :
    Text.Leaves text.length (line? text) := by
  refine Text.leaves_bind (leaves_statement? text) fun entry rest left => ?_
  refine Text.leaves_given fun after found => Text.leaves_some ?_
  rcases length_lineEnd? found with rfl | shorter
  · exact List.length_pos_iff.mpr nonempty
  · omega

/-- What the lines of a text say. -/
def entries? (text : List Char) : Option (List Entry) :=
  if _empty : text = [] then some []
  else
    match _read : line? text with
    | none => none
    | some (entry, rest) => (entries? rest).map fun entries => entry.toList ++ entries
termination_by text.length
decreasing_by exact leaves_line? _empty _ _ _read

/-- The table of a whole document, at the start of which a byte order mark is skipped. -/
def read? (document : String) : Option Members :=
  let text := document.toList
  let text := if text.head? = some '\ufeff' then text.tail else text
  (entries? text).bind Members.ofEntries?

end Toml
end JarLedger
