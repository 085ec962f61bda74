/-!
# Places in a file system

A path is followed name by name, a slash dividing the names: a point stays where it is, and two
points go up.  The places on the way are what a plain file may not be at.
-/

namespace JarLedger
namespace Text

/-- A place: the names from the root, or from the current directory, the last one first. -/
structure Place where
  isRooted : Bool
  names : List String
  deriving DecidableEq, Repr

namespace Place

/-- Where a path starts. -/
def start (path : String) : Place := ⟨path.startsWith "/", []⟩

/-- Follow one name. -/
def follow (place : Place) (name : String) : Place :=
  if name = "" ∨ name = "." then place
  else if name = ".." then
    match place.names with
    | [] => if place.isRooted then place else { place with names := [name] }
    | last :: names =>
        if last = ".." then { place with names := name :: place.names } else { place with names }
  else { place with names := name :: place.names }

/-- All places that a path goes through, the last one first. -/
def way (path : String) : List Place :=
  (path.splitOn "/").foldl
    (fun (way : List Place) name =>
      match way with
      | [] => []
      | here :: _ => here.follow name :: way)
    [start path]

/-- Where a path leads. -/
def ofPath (path : String) : Place := (way path).headD (start path)

end Place
end Text
end JarLedger
