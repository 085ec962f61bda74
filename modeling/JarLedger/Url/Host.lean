import JarLedger.Text.Whole
import JarLedger.Url.Domain

/-!
# Hosts

The machine that an address names: by a domain name, or by a number of four or of sixteen bytes.  A
name of which the last label is a number has to be a number of four bytes, in one to four parts,
decimal, octal or hexadecimal.
-/

namespace JarLedger

/-- The machine that an address names. -/
inductive Host where
  /-- By a domain name in ASCII. -/
  | domain (name : String)
  /-- By a number of four bytes. -/
  | four (number : Nat)
  /-- By eight groups of two bytes. -/
  | sixteen (groups : List Nat)
  deriving DecidableEq, Repr

namespace Host

/-- The number that digits of a base spell. -/
def number? (base : Nat) (digits : List Char) : Option Nat :=
  digits.foldlM
    (fun number digit => do
      let value ← Hex.value? digit
      if value < base then some (number * base + value) else none)
    0

/-- The number that a part of a four-byte number spells; a leading zero makes it octal. -/
def part? : List Char → Option Nat
  | [] => none
  | ['0'] => some 0
  | '0' :: 'x' :: digits => number? 16 digits
  | '0' :: 'X' :: digits => number? 16 digits
  | '0' :: digits => number? 8 digits
  | digits => number? 10 digits

/-- The parts of a name; a point at its end does not begin another one. -/
def parts (name : List Char) : List (List Char) :=
  let all := Domain.labels name
  if all.getLast? = some [] then all.dropLast else all

/-- Whether a name ends in a number. -/
def endsInNumber (name : List Char) : Bool :=
  match (parts name).getLast? with
  | none => false
  | some last => (Text.natural? last).isSome || (part? last).isSome

/-- The four-byte number that a name spells: the last part fills all bytes that are left. -/
def four? (name : List Char) : Option Nat := do
  let numbers ← (parts name).mapM part?
  let last ← numbers.getLast?
  let front := numbers.dropLast
  if 3 < front.length ∨ front.any (fun number => 255 < number) then none
  else if Nat.pow 256 (4 - front.length) ≤ last then none
  else
    let high := front.foldl (fun total number => total * 256 + number) 0
    return high * Nat.pow 256 (4 - front.length) + last

/-- The number of a group of one to four hexadecimal digits. -/
def group? (digits : List Char) : Option Nat :=
  if digits.isEmpty ∨ 4 < digits.length then none else number? 16 digits

/-- The number of a byte in decimal, without leading zeros. -/
def byte? (digits : List Char) : Option Nat := do
  let number ← Text.natural? digits
  if number ≤ 255 ∧ (digits.length = 1 ∨ digits.head? ≠ some '0') then some number else none

/-- The two groups that a four-byte number at the end stands for. -/
def tail? (text : List Char) : Option (List Nat) := do
  match ← (Domain.labels text).mapM byte? with
  | [first, second, third, fourth] => some [first * 256 + second, third * 256 + fourth]
  | _ => none

/-- The groups of a text divided by colons; the last may be a four-byte number. -/
def groups? (text : List Char) : Option (List Nat) :=
  if text.isEmpty then some []
  else do
    let pieces := text.splitOnP fun character => character = ':'
    let front ← pieces.dropLast.mapM group?
    let last ← pieces.getLast?
    let back ← if '.' ∈ last then tail? last else (group? last).map ([·])
    return front ++ back

/-- The texts before and after the first double colon. -/
def splitGap? : List Char → Option (List Char × List Char)
  | [] => none
  | ':' :: ':' :: rest => some ([], rest)
  | character :: rest => (splitGap? rest).map fun halves => (character :: halves.1, halves.2)

/-- The eight groups of a sixteen-byte number; a double colon stands for one or more zeros. -/
def sixteen? (text : List Char) : Option (List Nat) :=
  match splitGap? text with
  | none => do
      let groups ← groups? text
      if groups.length = 8 then some groups else none
  | some (before, after) => do
      let front ← groups? before
      let back ← groups? after
      if '.' ∈ before ∨ 7 < front.length + back.length then none
      else some (front ++ List.replicate (8 - front.length - back.length) 0 ++ back)

/-- The host that the text between the credentials and the port stands for. -/
def ofText? (text : List Char) : Option Host :=
  match text with
  | '[' :: inner =>
      if inner.getLast? = some ']' then (sixteen? inner.dropLast).map .sixteen else none
  | _ => do
      let name ← Domain.ofText? text
      if endsInNumber name then (four? name).map .four else some (.domain (String.ofList name))

/-- The four parts of a four-byte number. -/
def fourText (number : Nat) : String :=
  ".".intercalate ([24, 16, 8, 0].map fun shift => toString (number >>> shift % 256))

/-- How many zeros stand at the front. -/
def zeros (groups : List Nat) : Nat := (groups.takeWhile fun group => group = 0).length

/-- Place and length of the first longest run of zeros. -/
def longestZeros (groups : List Nat) : Nat × Nat :=
  (List.range groups.length).foldl
    (fun (best : Nat × Nat) place =>
      if best.2 < zeros (groups.drop place) then (place, zeros (groups.drop place)) else best)
    (0, 0)

/-- Groups in hexadecimal, divided by colons. -/
def groupsText (groups : List Nat) : String :=
  ":".intercalate (groups.map fun (group : Nat) => String.ofList (Nat.toDigits 16 group))

/-- The shortest text of a sixteen-byte number: the first longest run of two or more zeros is left
out. -/
def sixteenText (groups : List Nat) : String :=
  let (place, length) := longestZeros groups
  if length < 2 then groupsText groups
  else groupsText (groups.take place) ++ "::" ++ groupsText (groups.drop (place + length))

/-- A host as it stands in an address. -/
def text : Host → String
  | .domain name => name
  | .four number => fourText number
  | .sixteen groups => "[" ++ sixteenText groups ++ "]"

end Host
end JarLedger
