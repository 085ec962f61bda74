import JarLedger.Gzip.CanonicalCode

/-!
# Inflating

A compressed stream is a sequence of blocks: stored bytes, or symbols of a fixed code or of a code
that the block brings along.  A symbol is a byte, the end of the block, or the length of a copy of
bytes written before; a copy that reaches back before the first byte finds zeros there.
-/

namespace JarLedger
namespace Inflate

/-- Bytes written so far. -/
abbrev Output : Type := Array UInt8

/-- What a step wrote, and where it left the stream or why it stopped. -/
abbrev Outcome : Type := Output × Except Fault Bits

/-- A step that came to its end leaves fewer than so many bits. -/
def Leaves (limit : Nat) (outcome : Outcome) : Prop :=
  ∀ (rest : Bits), outcome.2 = .ok rest → rest.length < limit

theorem leaves_error {limit : Nat} (output : Output) (fault : Fault) :
    Leaves limit (output, .error fault) := by
  intro rest done
  cases done

theorem leaves_ok {limit : Nat} (output : Output) {rest : Bits} (short : rest.length < limit) :
    Leaves limit (output, .ok rest) := by
  rintro _ ⟨⟩
  exact short

/-- The two codes of a block. -/
structure Codes where
  /-- Code of bytes, the end and lengths. -/
  main : CanonicalCode
  /-- Code of distances. -/
  distance : CanonicalCode

/-- Symbol that ends a block. -/
def endSymbol : Nat := 256

/-- Least length of each length symbol, and how many extra bits follow it. -/
def lengthTable : List (Nat × Nat) :=
  [(3, 0), (4, 0), (5, 0), (6, 0), (7, 0), (8, 0), (9, 0), (10, 0), (11, 1), (13, 1), (15, 1),
    (17, 1), (19, 2), (23, 2), (27, 2), (31, 2), (35, 3), (43, 3), (51, 3), (59, 3), (67, 4),
    (83, 4), (99, 4), (115, 4), (131, 5), (163, 5), (195, 5), (227, 5), (258, 0)]

/-- Least distance of each distance symbol, and how many extra bits follow it. -/
def distanceTable : List (Nat × Nat) :=
  [(1, 0), (2, 0), (3, 0), (4, 0), (5, 1), (7, 1), (9, 2), (13, 2), (17, 3), (25, 3), (33, 4),
    (49, 4), (65, 5), (97, 5), (129, 6), (193, 6), (257, 7), (385, 7), (513, 8), (769, 8),
    (1025, 9), (1537, 9), (2049, 10), (3073, 10), (4097, 11), (6145, 11), (8193, 12),
    (12289, 12), (16385, 13), (24577, 13)]

/-- Read a number that a table's entry and the extra bits after it give. -/
def readEntry (table : List (Nat × Nat)) (place : Nat) (bits : Bits) :
    Except Fault (Nat × Bits) :=
  match table[place]? with
  | none => .error .corrupt
  | some (least, extra) => do
      let (more, bits) ← Bits.take? extra bits
      return (least + more, bits)

theorem leaves_readEntry (table : List (Nat × Nat)) (place : Nat) {limit : Nat} {bits : Bits}
    (short : bits.length < limit) : Bits.Leaves limit (readEntry table place bits) := by
  unfold readEntry
  split
  · exact Bits.leaves_error _
  · exact Bits.leaves_bind (Bits.leaves_take? _ short) fun _ _ left => Bits.leaves_ok left

/-- Append so many bytes, each the one that lies a distance back. -/
def copy (distance : Nat) : (length : Nat) → Output → Output
  | 0, output => output
  | length + 1, output =>
      let byte := if distance ≤ output.size then output.getD (output.size - distance) 0 else 0
      copy distance length (output.push byte)

/-- What a symbol asks for. -/
inductive Order where
  /-- Write a byte. -/
  | byte (value : UInt8)
  /-- Copy so many bytes from a distance. -/
  | copy (length distance : Nat)
  /-- End the block. -/
  | stop

/-- Read the rest of a copy, of which the symbol of its length is read. -/
def readCopy (codes : Codes) (symbol : Nat) (bits : Bits) : Except Fault (Order × Bits) := do
  let (length, bits) ← readEntry lengthTable (symbol - (endSymbol + 1)) bits
  let (place, bits) ← codes.distance.read bits
  let (distance, bits) ← readEntry distanceTable place bits
  return (.copy length distance, bits)

theorem leaves_readCopy (codes : Codes) (symbol : Nat) {limit : Nat} {bits : Bits}
    (short : bits.length < limit) : Bits.Leaves limit (readCopy codes symbol bits) :=
  Bits.leaves_bind (leaves_readEntry _ _ short) fun _ _ one =>
    Bits.leaves_bind (codes.distance.leaves_read (Nat.le_of_lt one)) fun _ _ two =>
      Bits.leaves_bind (leaves_readEntry _ _ two) fun _ _ three => Bits.leaves_ok three

/-- Read one order. -/
def readOrder (codes : Codes) (bits : Bits) : Except Fault (Order × Bits) := do
  let (symbol, bits) ← codes.main.read bits
  if symbol < endSymbol then return (.byte (UInt8.ofNat symbol), bits)
  else if symbol = endSymbol then return (.stop, bits)
  else readCopy codes symbol bits

/-- Every order takes at least one bit. -/
theorem leaves_readOrder (codes : Codes) {limit : Nat} {bits : Bits}
    (short : bits.length ≤ limit) : Bits.Leaves limit (readOrder codes bits) := by
  refine Bits.leaves_bind (codes.main.leaves_read short) fun symbol rest left => ?_
  dsimp only
  split
  · exact Bits.leaves_ok left
  · split
    · exact Bits.leaves_ok left
    · exact leaves_readCopy codes symbol left

/-- Follow the orders of a block up to its end. -/
def orders (codes : Codes) (output : Output) (bits : Bits) : Outcome :=
  match _read : readOrder codes bits with
  | .error fault => (output, .error fault)
  | .ok (.stop, rest) => (output, .ok rest)
  | .ok (.byte value, rest) => orders codes (output.push value) rest
  | .ok (.copy length distance, rest) => orders codes (copy distance length output) rest
termination_by bits.length
decreasing_by all_goals exact leaves_readOrder codes (Nat.le_refl _) _ _ _read

theorem leaves_orders (codes : Codes) (output : Output) {limit : Nat} {bits : Bits}
    (short : bits.length ≤ limit) : Leaves limit (orders codes output bits) := by
  fun_induction orders codes output bits with
  | case1 => exact leaves_error _ _
  | case2 output bits rest read => exact leaves_ok _ (leaves_readOrder codes short _ _ read)
  | case3 output bits value rest read ih =>
      exact ih (Nat.le_of_lt (leaves_readOrder codes short _ _ read))
  | case4 output bits length distance rest read ih =>
      exact ih (Nat.le_of_lt (leaves_readOrder codes short _ _ read))

/-- The codes of blocks that bring none along. -/
def fixedCodes : Codes where
  main := .ofLengths (List.replicate 144 8 ++ List.replicate 112 9 ++ List.replicate 24 7 ++
    List.replicate 8 8)
  distance := .ofLengths (List.replicate 32 5)

/-- The order in which the lengths of the words for lengths are given. -/
def lengthOrder : List Nat := [16, 17, 18, 0, 8, 7, 9, 6, 10, 5, 11, 4, 12, 3, 13, 2, 14, 1, 15]

/-- Read so many numbers of three bits. -/
def readTriples : (count : Nat) → Bits → Except Fault (List Nat × Bits)
  | 0, bits => .ok ([], bits)
  | count + 1, bits => do
      let (first, bits) ← Bits.take? 3 bits
      let (rest, bits) ← readTriples count bits
      return (first :: rest, bits)

theorem leaves_readTriples (count : Nat) {limit : Nat} {bits : Bits}
    (short : bits.length < limit) : Bits.Leaves limit (readTriples count bits) := by
  induction count generalizing bits with
  | zero => exact Bits.leaves_ok short
  | succ count ih =>
      exact Bits.leaves_bind (Bits.leaves_take? _ short) fun _ _ one =>
        Bits.leaves_bind (ih one) fun _ _ two => Bits.leaves_ok two

/-- The word lengths that a symbol stands for, which may be repetitions of the last one or of
zero; `lengths` holds those read before, last first. -/
def readRepetition (symbol : Nat) (lengths : List Nat) (bits : Bits) :
    Except Fault (List Nat × Bits) :=
  match symbol, lengths with
  | 16, [] => .error .corrupt
  | 16, last :: _ => do
      let (more, bits) ← Bits.take? 2 bits
      return (List.replicate (3 + more) last, bits)
  | 17, _ => do
      let (more, bits) ← Bits.take? 3 bits
      return (List.replicate (3 + more) 0, bits)
  | 18, _ => do
      let (more, bits) ← Bits.take? 7 bits
      return (List.replicate (11 + more) 0, bits)
  | length, _ => .ok ([length], bits)

theorem leaves_readRepetition (symbol : Nat) (lengths : List Nat) {limit : Nat} {bits : Bits}
    (short : bits.length < limit) : Bits.Leaves limit (readRepetition symbol lengths bits) := by
  unfold readRepetition
  split
  · exact Bits.leaves_error _
  · exact Bits.leaves_bind (Bits.leaves_take? _ short) fun _ _ left => Bits.leaves_ok left
  · exact Bits.leaves_bind (Bits.leaves_take? _ short) fun _ _ left => Bits.leaves_ok left
  · exact Bits.leaves_bind (Bits.leaves_take? _ short) fun _ _ left => Bits.leaves_ok left
  · exact Bits.leaves_ok short

/-- Read a symbol and the word lengths that it stands for. -/
def readStretch (code : CanonicalCode) (lengths : List Nat) (bits : Bits) :
    Except Fault (List Nat × Bits) := do
  let (symbol, bits) ← code.read bits
  readRepetition symbol lengths bits

theorem leaves_readStretch (code : CanonicalCode) (lengths : List Nat) {limit : Nat} {bits : Bits}
    (short : bits.length ≤ limit) : Bits.Leaves limit (readStretch code lengths bits) :=
  Bits.leaves_bind (code.leaves_read short) fun symbol _ left =>
    leaves_readRepetition symbol lengths left

/-- Read word lengths until there are at least `wanted`; `lengths` holds those read, last first. -/
def readLengths (code : CanonicalCode) (wanted : Nat) (lengths : List Nat) (bits : Bits) :
    Except Fault (List Nat × Bits) :=
  if wanted ≤ lengths.length then .ok (lengths.reverse, bits)
  else
    match _read : readStretch code lengths bits with
    | .error fault => .error fault
    | .ok (more, rest) => readLengths code wanted (more ++ lengths) rest
termination_by bits.length
decreasing_by exact leaves_readStretch code lengths (Nat.le_refl _) _ _ _read

theorem leaves_readLengths (code : CanonicalCode) (wanted : Nat) (lengths : List Nat)
    {limit : Nat} {bits : Bits} (short : bits.length < limit) :
    Bits.Leaves limit (readLengths code wanted lengths bits) := by
  fun_induction readLengths code wanted lengths bits with
  | case1 => exact Bits.leaves_ok short
  | case2 => exact Bits.leaves_error _
  | case3 lengths bits _ more rest read ih =>
      exact ih (leaves_readStretch code lengths (Nat.le_of_lt short) _ _ read)

/-- A code given by word lengths, which has to be complete unless at most one symbol has a word. -/
def codeOf? (lengths : List Nat) : Option CanonicalCode :=
  let code := CanonicalCode.ofLengths lengths
  if code.isComplete ∨ code.symbols.size ≤ 1 then some code else none

/-- Read so many word lengths of the one code and so many of the other, which are given by words of
a third code. -/
def readPair (code : CanonicalCode) (mainCount distanceCount : Nat) (bits : Bits) :
    Except Fault (Codes × Bits) := do
  let (lengths, bits) ← readLengths code (mainCount + distanceCount) [] bits
  if lengths.length = mainCount + distanceCount then
    match codeOf? (lengths.take mainCount), codeOf? (lengths.drop mainCount) with
    | some main, some distance => return (⟨main, distance⟩, bits)
    | _, _ => .error .corrupt
  else .error .corrupt

theorem leaves_readPair (code : CanonicalCode) (mainCount distanceCount : Nat) {limit : Nat}
    {bits : Bits} (short : bits.length < limit) :
    Bits.Leaves limit (readPair code mainCount distanceCount bits) := by
  refine Bits.leaves_bind (leaves_readLengths code _ [] short) fun lengths rest left => ?_
  dsimp only
  split
  · split
    · exact Bits.leaves_ok left
    · exact Bits.leaves_error _
  · exact Bits.leaves_error _

/-- The code for word lengths whose own word lengths are given in their fixed order. -/
def lengthCode (triples : List Nat) : CanonicalCode :=
  .ofLengths ((List.range 19).map fun symbol => ((lengthOrder.zip triples).lookup symbol).getD 0)

/-- Read the codes that a block brings along. -/
def readCodes (bits : Bits) : Except Fault (Codes × Bits) := do
  let (mainMore, bits) ← Bits.take? 5 bits
  let (distanceMore, bits) ← Bits.take? 5 bits
  let (orderMore, bits) ← Bits.take? 4 bits
  if 286 < mainMore + 257 ∨ 30 < distanceMore + 1 then .error .corrupt
  else
    let (triples, bits) ← readTriples (orderMore + 4) bits
    if (lengthCode triples).isComplete then
      readPair (lengthCode triples) (mainMore + 257) (distanceMore + 1) bits
    else .error .corrupt

theorem leaves_readCodes {limit : Nat} {bits : Bits} (short : bits.length < limit) :
    Bits.Leaves limit (readCodes bits) := by
  refine Bits.leaves_bind (Bits.leaves_take? _ short) fun mainMore _ one => ?_
  refine Bits.leaves_bind (Bits.leaves_take? _ one) fun distanceMore _ two => ?_
  refine Bits.leaves_bind (Bits.leaves_take? _ two) fun orderMore _ three => ?_
  dsimp only
  split
  · exact Bits.leaves_error _
  · refine Bits.leaves_bind (leaves_readTriples _ three) fun triples _ four => ?_
    dsimp only
    split
    · exact leaves_readPair _ _ _ four
    · exact Bits.leaves_error _

/-- Append so many stored bytes. -/
def storedBytes : (count : Nat) → Output → Bits → Outcome
  | 0, output, bits => (output, .ok bits)
  | count + 1, output, bits =>
      match Bits.take? 8 bits with
      | .error fault => (output, .error fault)
      | .ok (byte, bits) => storedBytes count (output.push (UInt8.ofNat byte)) bits

theorem leaves_storedBytes (count : Nat) (output : Output) {limit : Nat} {bits : Bits}
    (short : bits.length < limit) : Leaves limit (storedBytes count output bits) := by
  induction count generalizing output bits with
  | zero => exact leaves_ok _ short
  | succ count ih =>
      unfold storedBytes
      split
      · exact leaves_error _ _
      · next taken => exact ih _ (Bits.leaves_take? 8 short _ _ taken)

/-- Read how many bytes are stored, a number that its complement confirms. -/
def readStoredLength (bits : Bits) : Except Fault (Nat × Bits) := do
  let (length, bits) ← Bits.take? 16 bits.align
  let (complement, bits) ← Bits.take? 16 bits
  if length + complement = 0xFFFF then return (length, bits) else .error .corrupt

theorem leaves_readStoredLength {limit : Nat} {bits : Bits} (short : bits.length < limit) :
    Bits.Leaves limit (readStoredLength bits) := by
  have aligned := Nat.lt_of_le_of_lt (Bits.length_align bits) short
  refine Bits.leaves_bind (Bits.leaves_take? _ aligned) fun length _ one => ?_
  refine Bits.leaves_bind (Bits.leaves_take? _ one) fun complement _ two => ?_
  dsimp only
  split
  · exact Bits.leaves_ok two
  · exact Bits.leaves_error _

/-- Read a block of stored bytes. -/
def stored (output : Output) (bits : Bits) : Outcome :=
  match readStoredLength bits with
  | .error fault => (output, .error fault)
  | .ok (length, bits) => storedBytes length output bits

/-- Read a block of orders whose codes it brings along. -/
def coded (output : Output) (bits : Bits) : Outcome :=
  match readCodes bits with
  | .error fault => (output, .error fault)
  | .ok (codes, bits) => orders codes output bits

/-- Read the content of a block of a kind. -/
def content (kind : Nat) (output : Output) (bits : Bits) : Outcome :=
  match kind with
  | 0 => stored output bits
  | 1 => orders fixedCodes output bits
  | 2 => coded output bits
  | _ => (output, .error .corrupt)

theorem leaves_content (kind : Nat) (output : Output) {limit : Nat} {bits : Bits}
    (short : bits.length < limit) : Leaves limit (content kind output bits) := by
  unfold content
  split
  · unfold stored
    split
    · exact leaves_error _ _
    · next read => exact leaves_storedBytes _ _ (leaves_readStoredLength short _ _ read)
  · exact leaves_orders _ _ (Nat.le_of_lt short)
  · unfold coded
    split
    · exact leaves_error _ _
    · next read => exact leaves_orders _ _ (Nat.le_of_lt (leaves_readCodes short _ _ read))
  · exact leaves_error _ _

/-- Read blocks up to the last one. -/
def blocks (output : Output) (bits : Bits) : Outcome :=
  match _taken : Bits.take? 3 bits with
  | .error fault => (output, .error fault)
  | .ok (header, rest) =>
      match _read : content (header / 2) output rest with
      | (output, .error fault) => (output, .error fault)
      | (output, .ok rest) =>
          if header % 2 = 1 then (output, .ok rest.align) else blocks output rest
termination_by bits.length
decreasing_by
  have header := Bits.length_of_take? _taken
  refine leaves_content _ _ ?_ _ (congrArg Prod.snd _read)
  omega

/-- Inflate the stream at the front of some bytes: what it holds, and the bytes after it or why it
could not be read to its end. -/
def run (bytes : List UInt8) : List UInt8 × Except Fault (List UInt8) :=
  let (output, result) := blocks #[] (Bits.ofBytes bytes)
  (output.toList, result.map fun rest => bytes.drop (bytes.length - rest.bytesLeft))

end Inflate
end JarLedger
