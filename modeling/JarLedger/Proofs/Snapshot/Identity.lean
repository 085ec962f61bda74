import JarLedger.Proofs.Snapshot.Names
import JarLedger.Proofs.Snapshot.Spellings

/-!
# Who is the same machine

A document names the machine that it is about, or the name is computed from the fields that identify
the machine.  The bytes that are digested determine those fields up to the zero characters in them:
two identities with the same bytes agree exactly if their texts have as many zero characters, field
by field (`Identity.agrees_iff`).  A text of a document may hold such characters, so different
machines can get one computed name (`Snapshot.name_shared`).
-/

namespace JarLedger

/-! ## Bytes of texts -/

namespace Utf8

theorem encode_injective : Function.Injective encode := by
  intro left right same
  have bytes : left.toList.utf8Encode = right.toList.utf8Encode :=
    congrArg List.toByteArray same
  simpa [← String.toByteArray_ofList, String.toByteArray_inj] using bytes

/-- Only the zero character has a zero byte, and has one. -/
theorem count_zero_utf8EncodeChar (character : Char) :
    (String.utf8EncodeChar character).count 0 = if character = '\x00' then 1 else 0 := by
  have isZero : character = '\x00' ↔ character.val.toNat = 0 := by
    rw [Char.ext_iff, ← UInt32.toNat_inj]
    rfl
  have byte (number : Nat) : UInt8.ofNat number = 0 ↔ number % 256 = 0 := by
    rw [← UInt8.toNat_inj, UInt8.toNat_ofNat']
    rfl
  simp only [isZero, String.utf8EncodeChar]
  generalize character.val.toNat = number
  repeat' split
  all_goals simp only [List.count_cons, List.count_nil, beq_iff_eq, byte]
  all_goals repeat' split
  all_goals omega

theorem count_zero_encode (text : String) :
    (encode text).count 0 = text.toList.count '\x00' := by
  rw [encode]
  induction text.toList with
  | nil => rfl
  | cons character rest ih =>
      rw [List.flatMap_cons, List.count_append, ih, count_zero_utf8EncodeChar, List.count_cons,
        Nat.add_comm]
      simp only [beq_iff_eq]

end Utf8

/-! ## Pieces between separators -/

section Separated

variable {α : Type} [DecidableEq α] {separator : α}

/-- Of two ways to cut a list at a separator, with as many separators in front, one is the other. -/
theorem append_cons_inj_of_count {front other rest others : List α}
    (same : front ++ separator :: rest = other ++ separator :: others)
    (counts : front.count separator = other.count separator) : front = other ∧ rest = others := by
  -- A front that goes on after the other one goes on with the separator.
  have longer {short long middle tail : List α} (split : long = short ++ middle)
      (begins : separator :: tail = middle ++ separator :: rest ∨
        separator :: tail = middle ++ separator :: others)
      (counts : short.count separator = long.count separator) : middle = [] := by
    cases middle with
    | nil => rfl
    | cons head middle =>
        have first : separator = head := by rcases begins with begins | begins <;>
          exact (List.cons.inj begins).1
        rw [split, first, List.count_append, List.count_cons_self] at counts
        omega
  rcases List.append_eq_append_iff.mp same with ⟨middle, split, begins⟩ | ⟨middle, split, begins⟩
  · obtain rfl := longer split (.inr begins) counts
    rw [List.append_nil] at split
    exact ⟨split.symm, (List.cons.inj begins).2⟩
  · obtain rfl := longer split (.inl begins) counts.symm
    rw [List.append_nil] at split
    exact ⟨split, (List.cons.inj begins).2.symm⟩

/-- Pieces can be told from what they are joined to, if it is known how many separators each of them
holds. -/
theorem intercalate_inj_of_count {pieces others : List (List α)}
    (same : [separator].intercalate pieces = [separator].intercalate others)
    (counts : pieces.map (List.count separator) = others.map (List.count separator)) :
    pieces = others := by
  induction pieces generalizing others with
  | nil => exact (List.map_eq_nil_iff.mp counts.symm).symm
  | cons piece rest ih =>
      obtain ⟨other, later, rfl, first, following⟩ := List.map_eq_cons_iff.mp counts.symm
      cases rest with
      | nil =>
          obtain rfl := List.map_eq_nil_iff.mp following
          simpa using same
      | cons next rest =>
          obtain ⟨second, later, rfl, _, _⟩ := List.map_eq_cons_iff.mp following
          rw [List.intercalate_cons_cons, List.intercalate_cons_cons, List.append_assoc,
            List.append_assoc, List.singleton_append, List.singleton_append] at same
          obtain ⟨rfl, joined⟩ := append_cons_inj_of_count same first.symm
          rw [ih joined following.symm]

theorem count_intercalate (piece : List α) (rest : List (List α)) :
    ([separator].intercalate (piece :: rest)).count separator =
      ((piece :: rest).map (List.count separator)).sum + rest.length := by
  induction rest generalizing piece with
  | nil => simp
  | cons next rest ih =>
      rw [List.intercalate_cons_cons, List.count_append, List.count_append, ih]
      simp
      omega

end Separated

/-! ## Identities -/

namespace Identity

/-- Two identities have the same fields, where an absent text counts as empty. -/
structure Agrees (left right : Identity) : Prop where
  hostname : left.hostname = right.hostname
  launchTime : left.launchTime = right.launchTime
  vendor : left.vendor.getD "" = right.vendor.getD ""
  versionString : left.versionString.getD "" = right.versionString.getD ""
  javaHome : left.javaHome.getD "" = right.javaHome.getD ""
  pid : left.pid = right.pid

/-- How many zero characters the texts of an identity hold, field by field. -/
def zeros (identity : Identity) : List Nat :=
  [identity.hostname, identity.vendor.getD "", identity.versionString.getD "",
    identity.javaHome.getD ""].map fun text => text.toList.count '\x00'

theorem count_zero_repr (number : Int) : number.repr.toList.count '\x00' = 0 := by
  have digits (number : Nat) : (Nat.toDigits 10 number).count '\x00' = 0 := by
    rw [List.count_eq_zero]
    intro member
    exact absurd (Nat.isDigit_of_mem_toDigits (by decide) (by decide) member) (by decide)
  cases number with
  | ofNat number => exact (congrArg (List.count _) Nat.toList_repr).trans (digits number)
  | negSucc number => simp [Int.repr, digits]

/-- The text of a process number tells the number, and tells it from none. -/
theorem pidText_inj {left right : Option Int64} :
    (left.map fun pid => pid.toInt.repr).getD "" = (right.map fun pid => pid.toInt.repr).getD "" ↔
      left = right := by
  have full (pid : Int64) : pid.toInt.repr ≠ "" := (Json.Number.integer pid.toInt).text_ne_empty
  rcases left with _ | left <;> rcases right with _ | right
  · simp
  · simp [(full right).symm]
  · simp [full left]
  · rw [Option.map_some, Option.map_some, Option.getD_some, Option.getD_some, Text.repr_inj,
      Int64.toInt_inj, Option.some_inj]

theorem count_zero_pidText (pid : Option Int64) :
    ((pid.map fun pid => pid.toInt.repr).getD "").toList.count '\x00' = 0 := by
  cases pid with
  | none => rfl
  | some pid => exact count_zero_repr pid.toInt

/-- The zero bytes of each part are those of the texts. -/
theorem map_count_parts_inj {left right : Identity} :
    (left.parts.map Utf8.encode).map (List.count 0) =
        (right.parts.map Utf8.encode).map (List.count 0) ↔ left.zeros = right.zeros := by
  simp [parts, zeros, Utf8.count_zero_encode, count_zero_repr, count_zero_pidText]

theorem sum_map_count_parts (identity : Identity) :
    ((identity.parts.map Utf8.encode).map (List.count 0)).sum = identity.zeros.sum := by
  simp [parts, zeros, Utf8.count_zero_encode, count_zero_repr, count_zero_pidText]

theorem agrees_iff_parts {left right : Identity} :
    left.Agrees right ↔ left.parts = right.parts := by
  simp only [parts, List.cons.injEq, Int.toString_eq_repr, Text.repr_inj, Int64.toInt_inj, and_true]
  constructor
  · rintro ⟨hostname, launchTime, vendor, versionString, javaHome, pid⟩
    exact ⟨hostname, launchTime, vendor, versionString, javaHome, by rw [pid]⟩
  · rintro ⟨hostname, launchTime, vendor, versionString, javaHome, pid⟩
    exact ⟨hostname, launchTime, vendor, versionString, javaHome, pidText_inj.mp pid⟩

/-- The bytes that are digested tell the fields, if it is known how many zero characters the texts
hold. -/
theorem agrees_iff_preimage {left right : Identity} :
    left.Agrees right ↔ left.preimage = right.preimage ∧ left.zeros = right.zeros := by
  rw [agrees_iff_parts]
  constructor
  · intro same
    exact ⟨by rw [preimage, same, preimage], map_count_parts_inj.mp (by rw [same])⟩
  · rintro ⟨same, zeros⟩
    exact List.map_injective_iff.mpr Utf8.encode_injective
      (intercalate_inj_of_count same (map_count_parts_inj.mpr zeros))

/-- There are as many zero bytes as zero characters, and one between any two parts. -/
theorem count_zero_preimage (identity : Identity) :
    identity.preimage.count 0 = identity.zeros.sum + 5 := by
  rw [← sum_map_count_parts, preimage, parts, List.map_cons, count_intercalate]
  rfl

/-- Without zero characters on one side the bytes tell the fields. -/
theorem agrees_iff_of_unbroken {left right : Identity} (unbroken : left.zeros = [0, 0, 0, 0]) :
    left.Agrees right ↔ left.preimage = right.preimage := by
  rw [agrees_iff_preimage, and_iff_left_iff_imp]
  intro same
  have total : left.zeros.sum = right.zeros.sum := by
    have counted := congrArg (List.count 0) same
    rwa [count_zero_preimage, count_zero_preimage, Nat.add_right_cancel_iff] at counted
  rw [unbroken] at total ⊢
  simp [zeros] at total ⊢
  omega

end Identity

/-- Two lists of bytes have one digest. -/
def Sha2.Collide (first second : List UInt8) : Prop :=
  first ≠ second ∧ sha256 first = sha256 second

theorem Identity.linkingHash_eq_iff {left right : Identity} :
    left.linkingHash = right.linkingHash ↔
      left.preimage = right.preimage ∨ Sha2.Collide left.preimage right.preimage := by
  have spelled : left.linkingHash = right.linkingHash ↔
      Sha2.sha256 left.preimage = Sha2.sha256 right.preimage := by
    refine ⟨fun same => ?_, fun same => by rw [linkingHash, same, linkingHash]⟩
    have read := congrArg Hex.decode? same
    simpa [linkingHash] using read
  rw [spelled, Sha2.Collide]
  by_cases same : left.preimage = right.preimage <;> simp [same]

namespace Snapshot

/-- A document that gives no name describes a machine with an identity, and so gets its name. -/
inductive Computes (document : String) : Identity → String → Prop
  | machine {announcement : Announcement} {members : List (String × Json)} {new : Instance}
      (isObject : Json.read? document = some (.object members))
      (unnamed : Json.nameAt? namePlace (.object members) = none)
      (classified : classify announcement document = .ok (.newInstance new)) :
      Computes document new.machine.identity new.linkingHash

theorem Computes.name_eq {document name : String} {identity : Identity}
    (computes : Computes document identity name) : name = identity.linkingHash := by
  obtain ⟨isObject, unnamed, classified⟩ := computes
  obtain ⟨members, sameObject, read⟩ := (classify_ok_iff _ _ _).mp classified
  obtain rfl := Json.object.inj (Option.some.inj (isObject.symm.trans sameObject))
  rw [linkingHash_of_messageOf read, unnamed, Option.getD_none]

end Snapshot

/-- Two identities agree exactly if the same bytes are digested and their texts have as many zero
characters field by field; where one has none, the bytes alone tell.  The names that two documents
get are the same for the same bytes, and else only if the digests collide. -/
theorem Identity.agrees_iff (left right : Identity) :
    (left.Agrees right ↔ left.preimage = right.preimage ∧ left.zeros = right.zeros) ∧
      (left.zeros = [0, 0, 0, 0] → (left.Agrees right ↔ left.preimage = right.preimage)) ∧
      ∀ document other name otherName, Snapshot.Computes document left name →
        Snapshot.Computes other right otherName →
          (name = otherName ↔
            left.preimage = right.preimage ∨ Sha2.Collide left.preimage right.preimage) := by
  refine ⟨agrees_iff_preimage, agrees_iff_of_unbroken, fun _ _ _ _ computes computesOther => ?_⟩
  rw [computes.name_eq, computesOther.name_eq]
  exact linkingHash_eq_iff

namespace Snapshot

/-- A document of a machine that gives no name. -/
def unnamedMachine (vendor version home : String) : String :=
  "\x7b\"basic\":\x7b\"system.hostname\":\"h\",\"jvm.report_time\":7," ++
    "\"java.vm.specification.vendor\":\"" ++ vendor ++ "\",\"java.runtime.version\":\"" ++
    version ++ "\",\"java.home\":\"" ++ home ++ "\"\x7d\x7d"

theorem exists_computes (announcement : Announcement) {document : String} {identity : Identity}
    (described : ((classify announcement document).toOption.bind Message.new?).map
      (fun new => new.machine.identity) = some identity)
    (unnamed : (Json.read? document).map (Json.nameAt? namePlace) = some none) :
    ∃ name, Computes document identity name := by
  obtain ⟨new, brought, rfl⟩ := Option.map_eq_some_iff.mp described
  have classified := classify_of_new? brought
  obtain ⟨members, isObject, -⟩ := (classify_ok_iff _ _ _).mp classified
  rw [isObject] at unnamed
  exact ⟨_, .machine isObject (Option.some.inj unnamed) classified⟩

/-- A zero character that moves from one field to the next is a separator in one document and a
character of a text in the other. -/
theorem name_shared :
    ∃ left right name, Computes (unnamedMachine "a\\u0000b" "c" "d") left name ∧
      Computes (unnamedMachine "a" "b\\u0000c" "d") right name ∧
      left.preimage = right.preimage ∧ ¬left.Agrees right := by
  let announcement : Announcement := ⟨none, "o", "", none, default, none, false⟩
  let left : Identity := ⟨"h", 7, some "a\x00b", some "c", some "d", none⟩
  let right : Identity := ⟨"h", 7, some "a", some "b\x00c", some "d", none⟩
  have same : left.preimage = right.preimage := by decide +kernel
  obtain ⟨name, computes⟩ : ∃ name, Computes (unnamedMachine "a\\u0000b" "c" "d") left name :=
    exists_computes announcement (by decide +kernel) (by decide +kernel)
  obtain ⟨other, computesOther⟩ : ∃ name,
      Computes (unnamedMachine "a" "b\\u0000c" "d") right name :=
    exists_computes announcement (by decide +kernel) (by decide +kernel)
  have sameName : other = name := by
    rw [computes.name_eq, computesOther.name_eq, Identity.linkingHash, Identity.linkingHash, same]
  refine ⟨left, right, name, computes, sameName ▸ computesOther, same, fun agrees => ?_⟩
  exact absurd agrees.vendor (by decide)

end Snapshot
end JarLedger
