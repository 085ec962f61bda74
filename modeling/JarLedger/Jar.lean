import JarLedger.SortedMap

/-!
# Jars

A jar is known by the hash of its content alone; the name and version that came with it only
describe it.  A set of jars is a map from hashes to descriptions, and a description, once present,
is not replaced by a later one.
-/

namespace JarLedger

/-- What is said about a jar besides its hash. -/
structure JarLabel where
  /-- File name. -/
  name : Option String := none
  /-- Version. -/
  version : Option String := none
  deriving DecidableEq, Repr, Inhabited

/-- A jar: the hash of its content, and a description. -/
structure Jar where
  /-- Hash that identifies the content. -/
  hash : String
  /-- Description. -/
  label : JarLabel := {}
  deriving DecidableEq, Repr, Inhabited

/-- Order of jars by their hashes. -/
def Jar.compare (left right : Jar) : Ordering := compareOfLessAndEq left.hash right.hash

/-- Whether two jars have the same content, whatever is said about them. -/
def Jar.sameContent (left right : Jar) : Bool := left.compare right = .eq

/-- A set of jars, ascending by hash. -/
abbrev JarSet : Type := SortedMap JarLabel

namespace JarSet

/-- The set without jars. -/
def empty : JarSet := SortedMap.empty

/-- Add a jar unless its hash is present. -/
def insert (jars : JarSet) (jar : Jar) : JarSet := jars.insertIfNew jar.hash jar.label

/-- Collect jars; of equal hashes the first one stays. -/
def ofList (jars : List Jar) : JarSet :=
  SortedMap.ofListFirst (jars.map fun jar => (jar.hash, jar.label))

/-- The jars in ascending order. -/
def toList (jars : JarSet) : List Jar := jars.entries.map fun entry => ⟨entry.1, entry.2⟩

/-- The hashes of the jars. -/
def hashes (jars : JarSet) : StringSet := jars.map fun _ => ()

/-- The jars of the left set whose hashes are not in the right one. -/
def difference (left right : JarSet) : JarSet := left.filter fun hash _ => !right.contains hash

end JarSet
end JarLedger
