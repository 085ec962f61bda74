/-!
# The SHA-2 digests

SHA-256 and SHA-384 are one compression scheme over words of two widths.  `Scheme` holds what
differs between the widths: the rotations, the constants, and the sizes of the padding.  The round
constants of the narrow scheme are the upper halves of those of the wide one, since both are
leading bits of the fractional parts of the cube roots of the primes.
-/

namespace JarLedger
namespace Sha2

/-- Fractional parts of the cube roots of the first eighty primes, in units of `2⁻⁶⁴`. -/
def roundConstants : List UInt64 :=
  [0x428a2f98d728ae22, 0x7137449123ef65cd, 0xb5c0fbcfec4d3b2f, 0xe9b5dba58189dbbc,
    0x3956c25bf348b538, 0x59f111f1b605d019, 0x923f82a4af194f9b, 0xab1c5ed5da6d8118,
    0xd807aa98a3030242, 0x12835b0145706fbe, 0x243185be4ee4b28c, 0x550c7dc3d5ffb4e2,
    0x72be5d74f27b896f, 0x80deb1fe3b1696b1, 0x9bdc06a725c71235, 0xc19bf174cf692694,
    0xe49b69c19ef14ad2, 0xefbe4786384f25e3, 0x0fc19dc68b8cd5b5, 0x240ca1cc77ac9c65,
    0x2de92c6f592b0275, 0x4a7484aa6ea6e483, 0x5cb0a9dcbd41fbd4, 0x76f988da831153b5,
    0x983e5152ee66dfab, 0xa831c66d2db43210, 0xb00327c898fb213f, 0xbf597fc7beef0ee4,
    0xc6e00bf33da88fc2, 0xd5a79147930aa725, 0x06ca6351e003826f, 0x142929670a0e6e70,
    0x27b70a8546d22ffc, 0x2e1b21385c26c926, 0x4d2c6dfc5ac42aed, 0x53380d139d95b3df,
    0x650a73548baf63de, 0x766a0abb3c77b2a8, 0x81c2c92e47edaee6, 0x92722c851482353b,
    0xa2bfe8a14cf10364, 0xa81a664bbc423001, 0xc24b8b70d0f89791, 0xc76c51a30654be30,
    0xd192e819d6ef5218, 0xd69906245565a910, 0xf40e35855771202a, 0x106aa07032bbd1b8,
    0x19a4c116b8d2d0c8, 0x1e376c085141ab53, 0x2748774cdf8eeb99, 0x34b0bcb5e19b48a8,
    0x391c0cb3c5c95a63, 0x4ed8aa4ae3418acb, 0x5b9cca4f7763e373, 0x682e6ff3d6b2b8a3,
    0x748f82ee5defb2fc, 0x78a5636f43172f60, 0x84c87814a1f0ab72, 0x8cc702081a6439ec,
    0x90befffa23631e28, 0xa4506cebde82bde9, 0xbef9a3f7b2c67915, 0xc67178f2e372532b,
    0xca273eceea26619c, 0xd186b8c721c0c207, 0xeada7dd6cde0eb1e, 0xf57d4f7fee6ed178,
    0x06f067aa72176fba, 0x0a637dc5a2c898a6, 0x113f9804bef90dae, 0x1b710b35131c471b,
    0x28db77f523047d84, 0x32caab7b40c72493, 0x3c9ebe0a15c9bebc, 0x431d67c49c100d4c,
    0x4cc5d4becb3e42b6, 0x597f299cfc657e2a, 0x5fcb6fab3ad6faec, 0x6c44198c4a475817]

/-- Fractional parts of the square roots of the first eight primes, in units of `2⁻⁶⁴`. -/
def squareRoots : List UInt64 :=
  [0x6a09e667f3bcc908, 0xbb67ae8584caa73b, 0x3c6ef372fe94f82b, 0xa54ff53a5f1d36f1,
    0x510e527fade682d1, 0x9b05688c2b3e6c1f, 0x1f83d9abfb41bd6b, 0x5be0cd19137e2179]

/-- Fractional parts of the square roots of the ninth to sixteenth primes, in units of `2⁻⁶⁴`. -/
def laterSquareRoots : List UInt64 :=
  [0xcbbb9d5dc1059ed8, 0x629a292a367cd507, 0x9159015a3070dd17, 0x152fecd8f70e5939,
    0x67332667ffc00b31, 0x8eb44a8768581511, 0xdb0c2e0d64f98fa7, 0x47b5481dbefa4fa4]

/-- What tells the digest with one word width from that with the other. -/
structure Scheme (word : Type) where
  /-- Bytes in one word. -/
  width : Nat
  /-- Word read from big-endian bytes. -/
  ofNat : Nat → word
  /-- Value of a word. -/
  toNat : word → Nat
  /-- Sum modulo the word size. -/
  add : word → word → word
  /-- The two words mixed into the schedule, and the two sums of a round. -/
  smallSigma0 : word → word
  smallSigma1 : word → word
  largeSigma0 : word → word
  largeSigma1 : word → word
  /-- Bits of the second word where the first is set, of the third elsewhere. -/
  choose : word → word → word → word
  /-- Bits set in at least two of three words. -/
  majority : word → word → word → word
  /-- One constant a round. -/
  constants : List word
  /-- The eight words of the state before the first block. -/
  initial : List word

variable {word : Type}

/-- Bytes of a number, most significant first. -/
def bigEndian (width number : Nat) : List UInt8 :=
  (List.range width).map fun place => UInt8.ofNat (number / Nat.pow 256 (width - 1 - place))

/-- Number spelled by bytes, most significant first. -/
def ofBigEndian (bytes : List UInt8) : Nat :=
  bytes.foldl (fun number byte => number * 256 + byte.toNat) 0

/-- The message closed by a one bit, zeros, and its length in bits, to whole blocks. -/
def Scheme.pad (scheme : Scheme word) (message : List UInt8) : List UInt8 :=
  let block := 16 * scheme.width
  let zeros := (2 * block - (message.length + 1 + 2 * scheme.width) % block) % block
  message ++ 0x80 :: List.replicate zeros 0 ++ bigEndian (2 * scheme.width) (8 * message.length)

/-- Pieces of a fixed positive length; a shorter last piece is dropped. -/
def pieces (size : Nat) (bytes : List UInt8) : List (List UInt8) :=
  if _whole : 0 < size ∧ size ≤ bytes.length then
    bytes.take size :: pieces size (bytes.drop size)
  else []
termination_by bytes.length
decreasing_by simp; omega

/-- Extend the schedule by one word made of four earlier ones. -/
def Scheme.extend (scheme : Scheme word) [Inhabited word] (schedule : Array word) : Array word :=
  let back (distance : Nat) := schedule.getD (schedule.size - distance) default
  schedule.push (scheme.add (scheme.add (scheme.smallSigma1 (back 2)) (back 7))
    (scheme.add (scheme.smallSigma0 (back 15)) (back 16)))

/-- One word a round: those of the block, then mixtures of earlier ones. -/
def Scheme.schedule (scheme : Scheme word) [Inhabited word] (block : List UInt8) : Array word :=
  let start := (pieces scheme.width block).map fun bytes => scheme.ofNat (ofBigEndian bytes)
  (List.range (scheme.constants.length - 16)).foldl (fun schedule _ => scheme.extend schedule)
    start.toArray

/-- One round on the eight working words. -/
def Scheme.round (scheme : Scheme word) : List word → word × word → List word
  | [a, b, c, d, e, f, g, h], (constant, scheduled) =>
      let first := scheme.add (scheme.add h (scheme.largeSigma1 e))
        (scheme.add (scheme.choose e f g) (scheme.add constant scheduled))
      let second := scheme.add (scheme.largeSigma0 a) (scheme.majority a b c)
      [scheme.add first second, a, b, c, scheme.add d first, e, f, g]
  | state, _ => state

/-- Mix one block into the state. -/
def Scheme.compress (scheme : Scheme word) [Inhabited word] (state : List word)
    (block : List UInt8) : List word :=
  let mixed := (scheme.constants.zip (scheme.schedule block).toList).foldl scheme.round state
  state.zipWith scheme.add mixed

/-- The state after every block, as bytes. -/
def Scheme.digest (scheme : Scheme word) [Inhabited word] (message : List UInt8) : List UInt8 :=
  let blocks := pieces (16 * scheme.width) (scheme.pad message)
  let state := blocks.foldl scheme.compress scheme.initial
  state.flatMap fun state => bigEndian scheme.width (scheme.toNat state)

/-- Rotate a 32-bit word to the right. -/
def rotate32 (amount : UInt32) (x : UInt32) : UInt32 := x >>> amount ||| x <<< (32 - amount)

/-- Rotate a 64-bit word to the right. -/
def rotate64 (amount : UInt64) (x : UInt64) : UInt64 := x >>> amount ||| x <<< (64 - amount)

/-- The scheme over 32-bit words. -/
def narrow : Scheme UInt32 where
  width := 4
  ofNat := UInt32.ofNat
  toNat := UInt32.toNat
  add := (· + ·)
  smallSigma0 x := rotate32 7 x ^^^ rotate32 18 x ^^^ x >>> 3
  smallSigma1 x := rotate32 17 x ^^^ rotate32 19 x ^^^ x >>> 10
  largeSigma0 x := rotate32 2 x ^^^ rotate32 13 x ^^^ rotate32 22 x
  largeSigma1 x := rotate32 6 x ^^^ rotate32 11 x ^^^ rotate32 25 x
  choose x y z := (x &&& y) ^^^ (~~~x &&& z)
  majority x y z := (x &&& y) ^^^ (x &&& z) ^^^ (y &&& z)
  constants := (roundConstants.take 64).map fun (constant : UInt64) => (constant >>> 32).toUInt32
  initial := squareRoots.map fun (root : UInt64) => (root >>> 32).toUInt32

/-- The scheme over 64-bit words, from the later square roots. -/
def wide : Scheme UInt64 where
  width := 8
  ofNat := UInt64.ofNat
  toNat := UInt64.toNat
  add := (· + ·)
  smallSigma0 x := rotate64 1 x ^^^ rotate64 8 x ^^^ x >>> 7
  smallSigma1 x := rotate64 19 x ^^^ rotate64 61 x ^^^ x >>> 6
  largeSigma0 x := rotate64 28 x ^^^ rotate64 34 x ^^^ rotate64 39 x
  largeSigma1 x := rotate64 14 x ^^^ rotate64 18 x ^^^ rotate64 41 x
  choose x y z := (x &&& y) ^^^ (~~~x &&& z)
  majority x y z := (x &&& y) ^^^ (x &&& z) ^^^ (y &&& z)
  constants := roundConstants
  initial := laterSquareRoots

/-- The SHA-256 digest of a message. -/
def sha256 (message : List UInt8) : List UInt8 := narrow.digest message

/-- The SHA-384 digest of a message: six of the eight words of the wide scheme. -/
def sha384 (message : List UInt8) : List UInt8 := (wide.digest message).take 48

end Sha2
end JarLedger
