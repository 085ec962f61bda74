import JarLedger.Gzip.Bits

/-!
# Canonical codes

A canonical code is given by the length of each symbol's code word alone: shorter words come first,
and words of one length count up in the order of their symbols.  Zero marks a symbol without word.
-/

namespace JarLedger

/-- A canonical code. -/
structure CanonicalCode where
  /-- How many words there are of each length, from length one on. -/
  counts : List Nat
  /-- The symbols in the order of their words. -/
  symbols : Array Nat

namespace CanonicalCode

/-- Greatest length of a word. -/
def greatestLength : Nat := 15

/-- The symbols whose words have a length. -/
def symbolsOf (lengths : List Nat) (length : Nat) : List Nat :=
  (lengths.zipIdx.filter fun entry => entry.1 = length).map Prod.snd

/-- The code of a list of word lengths, one for each symbol. -/
def ofLengths (lengths : List Nat) : CanonicalCode :=
  let groups := (List.range greatestLength).map fun (place : Nat) => symbolsOf lengths (place + 1)
  let counts := groups.map List.length
  ⟨(counts.reverse.dropWhile fun count => count = 0).reverse, groups.flatten.toArray⟩

/-- How many words of the greatest length the words of the code stand for. -/
def weight (code : CanonicalCode) : Nat :=
  let weights := code.counts.zipIdx.map fun entry =>
    entry.1 * Nat.pow 2 (greatestLength - 1 - entry.2)
  weights.foldr (· + ·) 0

/-- Whether every long enough bit string starts with exactly one word. -/
def isComplete (code : CanonicalCode) : Bool := code.weight = Nat.pow 2 greatestLength

/-- Read a word bit by bit.  Among the words of the present length, `first` is the first one and
`index` its place in the list of symbols; `word` is what is read so far. -/
def readFrom (symbols : Array Nat) : (counts : List Nat) → (word first index : Nat) → Bits →
    Except Fault (Nat × Bits)
  | [], _, _, _, _ => .error .corrupt
  | _ :: _, _, _, _, [] => .error .truncated
  | count :: counts, word, first, index, bit :: bits =>
      let word := word + bit.toNat
      if word < first + count then
        match symbols[index + (word - first)]? with
        | some symbol => .ok (symbol, bits)
        | none => .error .corrupt
      else readFrom symbols counts (2 * word) (2 * (first + count)) (index + count) bits

/-- Read the symbol of the word at the front of a stream. -/
def read (code : CanonicalCode) (bits : Bits) : Except Fault (Nat × Bits) :=
  readFrom code.symbols code.counts 0 0 0 bits

theorem leaves_readFrom {symbols : Array Nat} {counts : List Nat} {word first index limit : Nat}
    {bits : Bits} (short : bits.length ≤ limit) :
    Bits.Leaves limit (readFrom symbols counts word first index bits) := by
  induction counts generalizing word first index bits with
  | nil => exact Bits.leaves_error _
  | cons count counts ih =>
      cases bits with
      | nil => exact Bits.leaves_error _
      | cons bit bits =>
          rw [List.length_cons] at short
          simp only [readFrom]
          split
          · split
            · exact Bits.leaves_ok (by omega)
            · exact Bits.leaves_error _
          · exact ih (by omega)

/-- Every word has at least one bit. -/
theorem leaves_read (code : CanonicalCode) {limit : Nat} {bits : Bits}
    (short : bits.length ≤ limit) : Bits.Leaves limit (code.read bits) :=
  leaves_readFrom short

end CanonicalCode
end JarLedger
