import JarLedger.Snapshot.Section

/-!
# Lists of jars in a document

A list of jars is an array, or an object that holds an array under `jars`.  An entry is a hash, or
an object that names a checksum among its attributes; any other entry is passed over.
-/

namespace JarLedger
namespace JarList

/-- Checksum attributes, the preferred one first. -/
def checksumNames : List String := ["sha256Checksum", "sha512Checksum", "sha1Checksum"]

/-- A text that is not empty. -/
def nonEmpty? (value : Json) : Option String :=
  value.string?.filter fun text => !text.isEmpty

/-- The preferred checksum among attributes that is a text and not empty. -/
def checksum? (attributes : List (String × Json)) : Option String :=
  checksumNames.findSome? fun name => (attributes.lookup name).bind nonEmpty?

/-- The jar of an entry, if it carries a hash. -/
def entry? : Json → Option Jar
  | .string hash => if hash.isEmpty then none else some { hash }
  | .object members => do
      let attributes ← (members.lookup "attributes").bind Json.members?
      let hash ← checksum? attributes
      let text? (name : String) := (members.lookup name).bind Json.string?
      return { hash, label := { name := text? "name", version := text? "version" } }
  | _ => none

/-- The jars of a list's entries; of equal hashes the first one stays. -/
def ofItems (items : List Json) : JarSet := JarSet.ofList (items.filterMap entry?)

/-- The entries of a list at a place, in either spelling; an absent list has none. -/
def items (path : Path) : Option Json → Except ClassificationError (List Json)
  | none => .ok []
  | some .null => .ok []
  | some (.array items) => .ok items
  | some (.object members) =>
      match members.lookup "jars" with
      | none => .ok []
      | some .null => .ok []
      | some (.array items) => .ok items
      | some _ => .error (.invalidField (path ++ [.key "jars"]) .array)
  | some _ => .error (.invalidField path .jarList)

/-- The jars of a list at a place. -/
def read (path : Path) (value : Option Json) : Except ClassificationError JarSet :=
  (items path value).map ofItems

end JarList

/-- The jars of a member that is a list of jars. -/
def Section.jars (part : Section) (name : String) : Except ClassificationError JarSet :=
  JarList.read (part.pathOf name) (part.get? name)

end JarLedger
