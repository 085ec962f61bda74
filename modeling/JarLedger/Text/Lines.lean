import JarLedger.Bytes.Utf8

/-!
# Lines

Bytes divided into lines of text.  A line ends at a line feed, of which a carriage return before it
is a part; the last line may lack its end.  Reading stops at a line that is not text.
-/

namespace JarLedger
namespace Text

/-- The bytes of the first line with its end, and the bytes after it. -/
def splitLine : List UInt8 → List UInt8 × List UInt8
  | [] => ([], [])
  | byte :: rest =>
      if byte = 10 then ([byte], rest)
      else
        let (line, tail) := splitLine rest
        (byte :: line, tail)

theorem length_splitLine (bytes : List UInt8) :
    (splitLine bytes).2.length ≤ bytes.length - 1 := by
  induction bytes with
  | nil => simp [splitLine]
  | cons byte rest ih =>
      simp only [splitLine]
      split
      · simp
      · simp only [List.length_cons]
        omega

/-- A line without its end. -/
def stripEnd (line : List UInt8) : List UInt8 :=
  match line.reverse with
  | 10 :: 13 :: rest => rest.reverse
  | 10 :: rest => rest.reverse
  | _ => line

/-- The bytes of every line, without the line ends. -/
def lineBytes (bytes : List UInt8) : List (List UInt8) :=
  if bytes.isEmpty then []
  else stripEnd (splitLine bytes).1 :: lineBytes (splitLine bytes).2
termination_by bytes.length
decreasing_by
  have shorter := length_splitLine bytes
  simp_all only [List.isEmpty_iff]
  have positive : 0 < bytes.length := List.length_pos_iff.mpr (by assumption)
  omega

/-- The lines up to the first that is not text. -/
def readableLines : List (List UInt8) → List String
  | [] => []
  | line :: rest =>
      match Utf8.decode? line with
      | some text => text :: readableLines rest
      | none => []

/-- Lines of text, and whether all lines are there. -/
structure Reading where
  lines : List String
  isWhole : Bool
  deriving DecidableEq, Repr

/-- Read lines of text. -/
def readLines (bytes : List UInt8) : Reading :=
  let all := lineBytes bytes
  let lines := readableLines all
  { lines, isWhole := lines.length = all.length }

end Text
end JarLedger
