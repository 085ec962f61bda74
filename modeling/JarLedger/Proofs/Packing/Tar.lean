import JarLedger.Proofs.Archive.Headers
import Mathlib.Algebra.Group.Nat.Defs
import Mathlib.Data.List.Basic

/-!
# Packing files into a tar archive

`Tar.pack` writes files one after the other, each as a plain header and its body.  A reader gets
them back in order, and goes on with what follows them (`Tar.entriesFrom_pack`).
-/

namespace JarLedger

namespace Utf8

theorem foldl_step_ascii {bytes : List UInt8} (ascii : ∀ byte ∈ bytes, byte.toNat < 0x80)
    (read : List (Option Char)) :
    bytes.foldl Decoder.step ⟨read, none⟩ =
      ⟨(bytes.map fun byte => some (Char.ofNat byte.toNat)).reverse ++ read, none⟩ := by
  induction bytes generalizing read with
  | nil => rfl
  | cons byte rest ih =>
      obtain ⟨first, others⟩ := List.forall_mem_cons.mp ascii
      have stepped : Decoder.step ⟨read, none⟩ byte =
          ⟨some (Char.ofNat byte.toNat) :: read, none⟩ := by
        simp only [Decoder.step, Decoder.first, first, if_true]
      rw [List.foldl_cons, stepped, ih others]
      simp

theorem decode?_ascii {bytes : List UInt8} (ascii : ∀ byte ∈ bytes, byte.toNat < 0x80) :
    decode? bytes = some (String.ofList (bytes.map fun byte => Char.ofNat byte.toNat)) := by
  have read : characters bytes = bytes.map fun byte => some (Char.ofNat byte.toNat) := by
    rw [characters, Decoder.start, foldl_step_ascii ascii, List.append_nil, Decoder.finish,
      List.reverse_reverse]
  have all : (characters bytes).all Option.isSome = true := by simp [read]
  rw [decode?, if_pos all, read, List.filterMap_map]
  simp

end Utf8

namespace Text

theorem dropWhile_of_none {test : Char → Bool} {text : List Char}
    (none : ∀ character ∈ text, test character = false) : text.dropWhile test = text := by
  cases text with
  | nil => rfl
  | cons first rest => rw [List.dropWhile_cons, none first List.mem_cons_self]; rfl

theorem trimList_of_none {test : Char → Bool} {text : List Char}
    (none : ∀ character ∈ text, test character = false) : trimList test text = text := by
  rw [trimList, dropWhile_of_none none, dropWhile_of_none, List.reverse_reverse]
  exact fun character member => none character (List.mem_reverse.mp member)

end Text

namespace Tar

/-- The last octal digits of a number. -/
def octalDigits : (count : Nat) → Nat → List Nat
  | 0, _ => []
  | count + 1, number => octalDigits count (number / 8) ++ [number % 8]

/-- An octal number of so many digits as text. -/
def octalText (count number : Nat) : List UInt8 :=
  (octalDigits count number).map fun digit => UInt8.ofNat (0x30 + digit)

theorem length_octalDigits (count number : Nat) : (octalDigits count number).length = count := by
  induction count generalizing number with
  | zero => rfl
  | succ count ih => rw [octalDigits, List.length_append, ih]; rfl

theorem length_octalText (count number : Nat) : (octalText count number).length = count := by
  rw [octalText, List.length_map, length_octalDigits]

theorem lt_of_mem_octalDigits {count number digit : Nat}
    (member : digit ∈ octalDigits count number) : digit < 8 := by
  induction count generalizing number with
  | zero => cases member
  | succ count ih =>
      rw [octalDigits, List.mem_append, List.mem_singleton] at member
      rcases member with earlier | rfl
      · exact ih earlier
      · exact Nat.mod_lt _ (by decide)

theorem foldl_octalDigits (count number : Nat) :
    (octalDigits count number).foldl (fun number digit => number * 8 + digit) 0 =
      number % 8 ^ count := by
  induction count generalizing number with
  | zero => exact (Nat.mod_one number).symm
  | succ count ih =>
      rw [octalDigits, List.foldl_append, ih, Nat.pow_succ', Nat.mod_mul, Nat.mul_comm,
        Nat.add_comm]
      rfl

def octalCharacters (count number : Nat) : List Char :=
  (octalDigits count number).map fun digit => Char.ofNat (0x30 + digit)

/-- What is so of all eight digits however they are written is so of those of a number. -/
theorem forall_mem_digits {α : Type} {write : Nat → α} {property : α → Prop} (count number : Nat)
    (holds : ∀ digit < 8, property (write digit)) :
    ∀ written ∈ (octalDigits count number).map write, property written :=
  List.forall_mem_map.mpr fun digit member => holds digit (lt_of_mem_octalDigits member)

theorem decode?_octalText (count number : Nat) :
    Utf8.decode? (octalText count number) =
      some (String.ofList (octalCharacters count number)) := by
  have same : ∀ digit < 8, Char.ofNat (UInt8.ofNat (0x30 + digit)).toNat =
    Char.ofNat (0x30 + digit) := by decide
  rw [octalText, Utf8.decode?_ascii (forall_mem_digits count number (by decide)), List.map_map]
  refine congrArg (fun text => some (String.ofList text)) (List.map_congr_left ?_)
  exact fun digit member => same digit (lt_of_mem_octalDigits member)

theorem unsigned?_octalCharacters {count number : Nat} (positive : 0 < count)
    (fits : number < 8 ^ count) (small : number < wordLimit) :
    unsigned? 8 (octalCharacters count number) = some number := by
  have digit : ∀ character ∈ octalCharacters count number, character ≠ '+' :=
    forall_mem_digits count number (by decide)
  have signless : (octalCharacters count number).head? ≠ some '+' :=
    fun sign => digit '+' (List.mem_of_mem_head? sign) rfl
  have filled : (octalCharacters count number).isEmpty = false := by
    rw [List.isEmpty_eq_false_iff, ← List.length_pos_iff, octalCharacters, List.length_map,
      length_octalDigits]
    exact positive
  have digits : (octalCharacters count number).all (fun character =>
      decide ('0' ≤ character ∧ character.toNat < '0'.toNat + 8)) = true :=
    List.all_eq_true.mpr (forall_mem_digits count number (by decide))
  have value : (octalCharacters count number).foldl
      (fun number digit => number * 8 + (digit.toNat - '0'.toNat)) 0 = number := by
    have same : ∀ digit < 8, (Char.ofNat (0x30 + digit)).toNat - '0'.toNat = digit := by decide
    rw [octalCharacters, List.foldl_map]
    rw [List.foldl_ext _ (fun number digit => number * 8 + digit), foldl_octalDigits,
      Nat.mod_eq_of_lt fits]
    exact fun number digit member => by rw [same digit (lt_of_mem_octalDigits member)]
  simp only [unsigned?, signless, if_false, filled, digits, value, small, if_true]
  simp

/-- A field of octal text that a zero byte closes holds its number. -/
theorem octal?_octalText {count number : Nat} (positive : 0 < count) (fits : number < 8 ^ count)
    (small : number < wordLimit) (rest : List UInt8) :
    octal? (octalText count number ++ 0 :: rest) = some number := by
  have closed : truncated (octalText count number ++ 0 :: rest) = octalText count number := by
    rw [truncated, List.takeWhile_append_of_pos, List.takeWhile_cons_of_neg, List.append_nil]
    · decide
    · exact forall_mem_digits count number (by decide)
  have trimmed : Text.trimList Text.isBlank (octalCharacters count number) =
      octalCharacters count number :=
    Text.trimList_of_none (forall_mem_digits count number (by decide))
  simp only [octal?, closed, decode?_octalText, bind, Option.bind, String.toList_ofList, trimmed]
  exact unsigned?_octalCharacters positive fits small

theorem number?_of_plain {field : List UInt8} (plain : ∀ byte ∈ field, ¬ 0x80 ≤ byte.toNat) :
    number? field = octal? field := by
  cases field with
  | nil => rfl
  | cons first rest => rw [number?, if_neg (plain first List.mem_cons_self)]

/-- A file that a plain header can describe. -/
structure File where
  path : List UInt8
  body : List UInt8
  short : path.length ≤ 100
  /-- No zero byte ends the path early. -/
  unbroken : ∀ byte ∈ path, byte ≠ 0
  small : body.length < 8 ^ 11

namespace File

/-- The header of a file before its checksum. -/
def front (file : File) : List UInt8 :=
  file.path ++ (List.replicate (124 - file.path.length) 0 ++
    (octalText 11 file.body.length ++ List.replicate 13 0))

/-- A header after its checksum: an ordinary file, and nothing more. -/
def back : List UInt8 := 0x30 :: List.replicate 355 0

/-- Sum of the bytes of some bytes. -/
def byteSum (bytes : List UInt8) : Nat := (bytes.map UInt8.toNat).foldr (· + ·) 0

/-- The checksum of a file's header. -/
def checksum (file : File) : Nat := byteSum file.front + byteSum back + 8 * 32

/-- The field that holds the checksum. -/
def checkField (file : File) : List UInt8 := octalText 6 file.checksum ++ [0, 0x20]

def header (file : File) : Header := ⟨file.front ++ (file.checkField ++ back)⟩

/-- A file in an archive: its header, its body, and zeros up to the end of the last block. -/
def pack (file : File) : List UInt8 :=
  file.header.bytes ++ (file.body ++
    List.replicate (roundedUp file.body.length - file.body.length) 0)

variable (file : File)

theorem length_front : file.front.length = 148 := by
  have short := file.short
  simp only [front, List.length_append, List.length_replicate, length_octalText]
  omega

theorem length_checkField : file.checkField.length = 8 := by
  rw [checkField, List.length_append, length_octalText]
  rfl

theorem length_header : file.header.bytes.length = blockSize := by
  simp only [header, List.length_append, length_front, length_checkField, back, List.length_cons,
    List.length_replicate, blockSize]

theorem byteSum_le (bytes : List UInt8) : byteSum bytes ≤ 255 * bytes.length := by
  induction bytes with
  | nil => exact Nat.le_refl _
  | cons byte rest ih =>
      have least := byte.toNat_lt
      rw [byteSum] at ih ⊢
      rw [List.map_cons, List.foldr_cons, List.length_cons]
      omega

theorem checksum_lt : file.checksum < 8 ^ 6 := by
  have most := byteSum_le file.front
  have rest : byteSum back = 0x30 := by decide +kernel
  rw [length_front] at most
  rw [checksum, rest]
  omega

theorem field_eq {before middle after : List UInt8} {start length : Nat}
    (here : before.length = start) (long : middle.length = length) :
    Header.field ⟨before ++ (middle ++ after)⟩ start length = middle := by
  rw [Header.field, List.drop_left' here, List.take_left' long]

theorem drop_header : file.header.bytes.drop 156 = back := by
  rw [header, ← List.append_assoc]
  exact List.drop_left' (by rw [List.length_append, length_front, length_checkField])

theorem sum_header : file.header.sum = file.checksum := by
  have start : file.header.bytes.take 148 = file.front := List.take_left' file.length_front
  simp only [Header.sum, drop_header, start]
  rfl

theorem isSound_header : file.header.isSound = true := by
  have field : file.header.field 148 8 = file.checkField :=
    field_eq file.length_front file.length_checkField
  have read : octal? file.checkField = some file.checksum :=
    octal?_octalText (by decide) file.checksum_lt
      (Nat.lt_trans file.checksum_lt (by decide)) [0x20]
  rw [Header.isSound, field, read, sum_header]
  exact decide_eq_true rfl

theorem size?_header : file.header.size? = some file.body.length := by
  have parts : file.header.bytes = (file.path ++ List.replicate (124 - file.path.length) 0) ++
      ((octalText 11 file.body.length ++ [0]) ++
        (List.replicate 12 0 ++ (file.checkField ++ back))) := by
    simp [header, front, List.replicate_succ]
  have field : file.header.field 124 12 = octalText 11 file.body.length ++ [0] := by
    rw [show file.header = ⟨_⟩ from congrArg Header.mk parts]
    refine field_eq ?_ ?_
    · have short := file.short
      rw [List.length_append, List.length_replicate]
      omega
    · rw [List.length_append, length_octalText]
      rfl
  have plain : ∀ byte ∈ octalText 11 file.body.length ++ [0], ¬ 0x80 ≤ byte.toNat :=
    List.forall_mem_append.mpr ⟨forall_mem_digits _ _ (by decide +kernel), by decide +kernel⟩
  rw [Header.size?, field, number?_of_plain plain]
  exact octal?_octalText (by decide) file.small (Nat.lt_trans file.small (by decide)) []

theorem kind_header : file.header.kind = '0' := by
  rw [Header.kind, drop_header]
  rfl

theorem isUstar_header : file.header.isUstar = false := by
  have magic : file.header.field 257 8 = List.replicate 8 0 := by
    rw [Header.field, ← List.drop_drop (i := 101) (j := 156), drop_header]
    rfl
  rw [Header.isUstar, magic]
  decide

theorem describes_header : file.header.describes = false := by
  simp [Header.describes, kind_header]

theorem name_header : file.header.name = file.path := by
  have unbroken : ∀ byte ∈ file.path, decide (byte ≠ 0) = true :=
    fun byte member => decide_eq_true (file.unbroken byte member)
  have named : truncated (file.header.field 0 100) = file.path := by
    have zeros : 100 - file.path.length ≤
        (List.replicate (124 - file.path.length) (0 : UInt8)).length := by
      rw [List.length_replicate]
      omega
    rw [Header.field, List.drop_zero, header, front, List.append_assoc, List.take_append,
      List.take_of_length_le file.short, List.append_assoc, List.take_append_of_le_length zeros,
      List.take_replicate, truncated, List.takeWhile_append_of_pos unbroken]
    simp
  simp only [Header.name, isUstar_header, named, Bool.false_eq_true, false_and, if_false]

theorem isZero_header : file.header.isZero = false := by
  have member : 0x30 ∈ file.header.bytes :=
    List.mem_of_mem_drop (i := 156) (file.drop_header ▸ List.mem_cons_self)
  exact List.all_eq_false.mpr ⟨0x30, member, by decide⟩

theorem length_pack : file.pack.length = blockSize + roundedUp file.body.length := by
  have padded := le_roundedUp file.body.length
  rw [pack, List.length_append, length_header, List.length_append, List.length_replicate]
  omega

/-- The header of a packed file is read as such, whatever follows it. -/
theorem heading (position : Nat) (after : List UInt8)
    (near : position + file.pack.length < wordLimit) :
    Heading {} position (file.header.bytes ++ after) file.header file.body.length
      [.data file.body.length] after where
  enough := by
    rw [List.length_append, length_header]
    exact Nat.le_add_right _ _
  begins := by rw [List.take_left' file.length_header]
  filled := Bool.eq_false_iff.mp (isZero_header file)
  sound := isSound_header file
  sized := by
    rw [Described.size?, size?_header]
    rfl
  near := by
    have padded := le_roundedUp file.body.length
    rw [length_pack] at near
    rw [blockSize] at near ⊢
    omega
  plain := Bool.eq_false_iff.mp (describes_header file)
  laidOut := by
    rw [List.drop_left' file.length_header, stretches?, kind_header, if_neg (by decide)]

/-- A packed file is read as its path and its body, and what follows it is read on. -/
theorem entriesFrom_file (ending : Ending) (position : Nat) (rest : List UInt8)
    (near : position + file.pack.length < wordLimit) :
    entriesFrom ending {} position (file.pack ++ rest) =
      .entry file.path (some file.body)
        (entriesFrom ending {} (position + file.pack.length) rest) := by
  have path : ({} : Described).path file.header = file.path := name_header file
  let data := file.body ++
    (List.replicate (roundedUp file.body.length - file.body.length) 0 ++ rest)
  have split : file.pack ++ rest = file.header.bytes ++ data := by
    rw [pack, List.append_assoc, List.append_assoc]
  have filling : fill [.data file.body.length] data = file.body := by
    rw [fill, List.take_left, fill, List.append_nil]
  -- The reader takes the header, skips the body with what fills up its last block, and goes on.
  have padded := le_roundedUp file.body.length
  have left : roundedUp file.body.length ≤ data.length := by
    simp only [data, List.length_append, List.length_replicate]
    omega
  have used : (file.pack ++ rest).length - data.length = blockSize := by
    rw [split, List.length_append, length_header, Nat.add_sub_cancel]
  rw [split, entriesFrom_of_heading (file.heading position data near), ← split, path,
    if_neg (fun cut => Nat.not_lt.mpr (Nat.le_trans padded left) cut.1),
    if_neg (Nat.not_lt.mpr left), used, filling, ← length_pack, List.drop_left, length_pack,
    Nat.add_assoc]

end File

/-- Files one after the other. -/
def pack (files : List File) : List UInt8 := files.flatMap File.pack

/-- The entries that files are, and what follows them. -/
def Entries.listing (files : List File) (rest : Entries) : Entries :=
  files.foldr (fun file rest => .entry file.path (some file.body) rest) rest

/-- Packed files are read in order, and what follows them is read on. -/
theorem entriesFrom_pack (ending : Ending) (position : Nat) (files : List File)
    (rest : List UInt8) (near : position + (pack files).length < wordLimit) :
    entriesFrom ending {} position (pack files ++ rest) =
      .listing files (entriesFrom ending {} (position + (pack files).length) rest) := by
  induction files generalizing position with
  | nil => rfl
  | cons file files ih =>
      have long : (pack (file :: files)).length = file.pack.length + (pack files).length := by
        rw [pack, List.flatMap_cons, List.length_append, pack]
      rw [long] at near ⊢
      rw [pack, List.flatMap_cons, List.append_assoc, ← pack,
        file.entriesFrom_file ending position _ (by omega), ih _ (by omega), Nat.add_assoc]
      rfl

end Tar
end JarLedger
