import JarLedger.Toml.Value

/-!
# Building TOML tables

What the lines of a document say, and how they build its table.  A path leads through tables; the
last one of repeated tables stands for all of them.  A table that is missing on the way is made.  A
key with dots may pass only through tables that such keys made, or that headers imply, and may end
only in one that such a key made; nothing is added to a table in braces, and no name is given twice.
-/

namespace JarLedger
namespace Toml

/-- What a line of a document says. -/
inductive Entry where
  /-- The lines that follow are about the table of a path. -/
  | header (path : List String) (name : String)
  /-- The lines that follow are about a new one of the repeated tables of a path. -/
  | repeatedHeader (path : List String) (name : String)
  /-- A value has a name in the table of a path, which starts at the table of the last header. -/
  | pair (path : List String) (name : String) (value : Value)
  deriving Repr

/-- The members of a table. -/
abbrev Members : Type := List (String × Value)

namespace Members

/-- The members with a name given to another value. -/
def replace (name : String) (value : Value) : Members → Members
  | [] => [(name, value)]
  | member :: rest =>
      if member.1 = name then (name, value) :: rest else member :: replace name value rest

/-- Change the members of the table at the end of a path; `fresh` is how tables that are missing on
the way come about. -/
def change? (fresh : Opening) (change : Opening → Members → Option Members) :
    (path : List String) → Opening → Members → Option Members
  | [], opening, members => change opening members
  | name :: path, _, members =>
      match members.lookup name with
      | none =>
          (change? fresh change path fresh []).map fun inner =>
            members ++ [(name, .table fresh inner)]
      | some (.table opening inner) =>
          if opening = .inline ∨ (fresh = .dotted ∧ opening = .header) then none
          else
            (change? fresh change path opening inner).map fun inner =>
              replace name (.table opening inner) members
      | some (.tables (last :: earlier)) =>
          (change? fresh change path .header last).map fun last =>
            replace name (.tables (last :: earlier)) members
      | some _ => none

/-- Name a value in the table of a path with dots. -/
def assign? (path : List String) (name : String) (value : Value) (members : Members) :
    Option Members :=
  change? .dotted
    (fun opening members =>
      if decide (opening = .dotted) = path.isEmpty ∨ (members.lookup name).isSome then none
      else some (members ++ [(name, value)]))
    path .header members

/-- Open the table that a header names: a new one, or one that was only implied. -/
def openTable? (path : List String) (name : String) (members : Members) : Option Members :=
  change? .implied
    (fun _ members =>
      match members.lookup name with
      | none => some (members ++ [(name, .table .header [])])
      | some (.table .implied inner) => some (replace name (.table .header inner) members)
      | some _ => none)
    path .header members

/-- Open a new one of the repeated tables that a header names. -/
def openRepeated? (path : List String) (name : String) (members : Members) : Option Members :=
  change? .implied
    (fun _ members =>
      match members.lookup name with
      | none => some (members ++ [(name, .tables [[]])])
      | some (.tables items) => some (replace name (.tables ([] :: items)) members)
      | some _ => none)
    path .header members

end Members

/-- A document under construction. -/
structure Draft where
  /-- What is in it so far. -/
  members : Members
  /-- Path of the last header. -/
  place : List String

namespace Draft

/-- Add what a line says. -/
def add? (draft : Draft) : Entry → Option Draft
  | .header path name =>
      (draft.members.openTable? path name).map fun members => ⟨members, path ++ [name]⟩
  | .repeatedHeader path name =>
      (draft.members.openRepeated? path name).map fun members => ⟨members, path ++ [name]⟩
  | .pair path name value =>
      (Members.change? .implied (fun _ members => members.assign? path name value) draft.place
        .header draft.members).map fun members => { draft with members }

end Draft

/-- The table that the lines of a document build. -/
def Members.ofEntries? (entries : List Entry) : Option Members :=
  (entries.foldlM Draft.add? ⟨[], []⟩).map Draft.members

end Toml
end JarLedger
