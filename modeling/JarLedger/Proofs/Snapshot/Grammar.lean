import JarLedger.Message
import JarLedger.Text.Blank
import Mathlib.Data.Nat.Digits.Defs

/-!
# The grammar of documents

What a document has to look like, said of its JSON value and not of a way to read it.  Scalars have
lenient spellings, `null` stands for an absent member, and members that are not named here may be
anything.  `Describes` says which documents describe a virtual machine, an application server or an
update.
-/

namespace JarLedger
namespace Grammar

/-- The members of an object. -/
abbrev Members : Type := List (String × Json)

/-! ## Scalars -/

/-- A scalar stands for its text. -/
inductive IsText : Json → Prop
  | string (text : String) : IsText (.string text)
  | number (value : Json.Number) : IsText (.number value)
  | bool (value : Bool) : IsText (.bool value)

/-- One digit or more. -/
def AreDigits (digits : List Char) : Prop := digits ≠ [] ∧ ∀ digit ∈ digits, digit.isDigit = true

/-- The number that digits spell in decimal. -/
def digitsValue (digits : List Char) : Nat :=
  Nat.ofDigits 10 (digits.reverse.map fun digit => digit.toNat - '0'.toNat)

/-- Digits, with or without a sign before them, spell an integer. -/
inductive Numeral : List Char → Int → Prop
  | plain {digits : List Char} (spelled : AreDigits digits) : Numeral digits (digitsValue digits)
  | plus {digits : List Char} (spelled : AreDigits digits) :
      Numeral ('+' :: digits) (digitsValue digits)
  | minus {digits : List Char} (spelled : AreDigits digits) :
      Numeral ('-' :: digits) (-digitsValue digits)

/-- An integer is given as a number, or as a numeral that may stand between blanks. -/
inductive SpellsInteger : Json → Int → Prop
  | number (value : Int) : SpellsInteger (.number (.integer value)) value
  | text {text : String} {front numeral back : List Char} {value : Int}
      (split : text.toList = front ++ numeral ++ back)
      (blankFront : ∀ character ∈ front, Text.isBlank character = true)
      (blankBack : ∀ character ∈ back, Text.isBlank character = true)
      (spelled : Numeral numeral value) : SpellsInteger (.string text) value

/-- An integer that fits so many bits with a sign. -/
def IsInteger (bits : Nat) (value : Json) : Prop :=
  ∃ number : Int, SpellsInteger value number ∧ -2 ^ (bits - 1) ≤ number ∧ number < 2 ^ (bits - 1)

/-- A text in any mixture of the small letters of a word and their capitals. -/
def SameLetters (text word : String) : Prop :=
  List.Forall₂ (fun character letter => character = letter ∨ character = letter.toUpper)
    text.toList word.toList

/-- A truth value, or its name in any case. -/
inductive IsTruth : Json → Prop
  | bool (value : Bool) : IsTruth (.bool value)
  | name {text word : String} (known : word ∈ ["true", "false"]) (same : SameLetters text word) :
      IsTruth (.string text)

/-! ## Members -/

/-- A member that is absent, `null` or right. -/
def May (members : Members) (name : String) (IsRight : Json → Prop) : Prop :=
  ∀ value, Json.present? members name = some value → IsRight value

/-- A member that is there, is not `null`, and is right. -/
def Must (members : Members) (name : String) (IsRight : Json → Prop) : Prop :=
  ∃ value, Json.present? members name = some value ∧ IsRight value

/-- An object with members of a kind. -/
def IsObject (AreRight : Members → Prop) (value : Json) : Prop :=
  ∃ members, value = .object members ∧ AreRight members

/-- An array with items of a kind. -/
def IsArray (IsRight : Json → Prop) (value : Json) : Prop :=
  ∃ items, value = .array items ∧ ∀ item ∈ items, IsRight item

/-- An array, or an object that may wrap one under `jars`; the entries may be anything. -/
def IsJarList (value : Json) : Prop :=
  IsArray (fun _ => True) value ∨
    IsObject (fun members => May members "jars" (IsArray fun _ => True)) value

/-! ## Parts of a document -/

/-- A virtual machine, by the root of a document and its `basic` section. -/
@[mk_iff]
structure IsMachine (root basic : Members) : Prop where
  hostname : Must basic "system.hostname" IsText
  reportTime : Must basic "jvm.report_time" (IsInteger 64)
  vendor : May basic "java.vm.specification.vendor" IsText
  runtimeVersion : May basic "java.runtime.version" IsText
  home : May basic "java.home" IsText
  pid : May basic "jvm.pid" (IsInteger 64)
  idHash : May root "idHash" IsText
  version : May basic "java.version" IsText
  heapMin : May basic "jvm.heap.min" (IsInteger 64)
  heapMax : May basic "jvm.heap.max" (IsInteger 64)
  cores : May basic "system.cores.logical" (IsInteger 32)
  classPath : May basic "java.class.path" IsText
  jars : May root "jars" IsJarList

/-- Something deployed. -/
@[mk_iff]
structure IsDeployment (members : Members) : Prop where
  name : Must members "name" IsText
  runtimeName : May members "runtime-name" IsText
  enabled : May members "enabled" IsTruth
  persistent : May members "persistent" IsTruth
  archives : May members "archives" IsJarList

/-- A subsystem that an extension provides. -/
@[mk_iff]
structure IsExtensionSubsystem (members : Members) : Prop where
  name : Must members "name" IsText
  major : May members "management-major-version" (IsInteger 32)
  minor : May members "management-minor-version" (IsInteger 32)
  micro : May members "management-micro-version" (IsInteger 32)

/-- An extension of a server. -/
@[mk_iff]
structure IsExtension (members : Members) : Prop where
  subsystems : May members "subsystems" (IsArray (IsObject IsExtensionSubsystem))
  moduleName : Must members "module" IsText

/-- Names of the scalar descriptors of a configuration. -/
def descriptorNames : List String :=
  ["version", "launch-type", "name", "organization", "process-type", "product-name",
    "product-version", "profile-name", "release-codename", "release-version", "running-mode",
    "runtime-configuration-state", "server-state", "suspend-state"]

/-- The configuration of a server. -/
@[mk_iff]
structure IsConfiguration (members : Members) : Prop where
  deployments : May members "deployments" (IsArray (IsObject IsDeployment))
  extensions : May members "extensions" (IsArray (IsObject IsExtension))
  subsystems : May members "subsystems" (IsObject fun _ => True)
  descriptors : ∀ name ∈ descriptorNames, May members name IsText

/-- Names of the truth values that are told of a server. -/
def flagNames : List String :=
  ["eap-xp", "eap-yaml-extension", "eap-bootable-jar", "eap-use-git"]

/-- An application server, by the `eap` section of a document. -/
@[mk_iff]
structure IsServer (members : Members) : Prop where
  configuration : May members "eap-configuration" (IsObject IsConfiguration)
  version : May members "eap-version" IsText
  flags : ∀ name ∈ flagNames, May members name IsTruth
  modules : May members "eap-modules" IsJarList

/-- An update, by the `updated-jars` section of a document. -/
@[mk_iff]
structure IsUpdate (members : Members) : Prop where
  idHash : Must members "idHash" fun value => IsText value ∧ value ≠ .string ""
  jars : May members "jars" IsJarList

/-! ## Documents -/

/-- What a document may describe. -/
inductive Shape where
  | machine
  | server
  | update
  deriving DecidableEq, Repr

/-- The members of a document describe something of a shape.  An update needs no `eap` section, but
one that is there has to be an object. -/
inductive Describes (root : Members) : Shape → Prop
  | machine {basic : Members} (isBasic : Json.present? root "basic" = some (.object basic))
      (noServer : Json.present? root "eap" = none) (isMachine : IsMachine root basic) :
      Describes root .machine
  | server {basic eap : Members} (isBasic : Json.present? root "basic" = some (.object basic))
      (isServer : Json.present? root "eap" = some (.object eap))
      (describesMachine : IsMachine root basic) (describesServer : IsServer eap) :
      Describes root .server
  | update {updated : Members} (noBasic : Json.present? root "basic" = none)
      (eap : May root "eap" (IsObject fun _ => True))
      (isUpdated : Json.present? root "updated-jars" = some (.object updated))
      (describesUpdate : IsUpdate updated) :
      Describes root .update

end Grammar
end JarLedger
