import JarLedger.ObjectStore.Basic

/-!
# Objects at hand

An object store that holds its objects under the exact text of their addresses.  Besides objects it
can hold refusals, streams that break off, and addresses that no worker survives.
-/

namespace JarLedger

/-- What lies under an address. -/
inductive ShelfItem where
  /-- An object. -/
  | object (body : List UInt8)
  /-- A refusal with a status. -/
  | refusal (status : Nat)
  /-- A stream that fails after some bytes; there is no whole object. -/
  | broken (arriving : List UInt8)
  /-- The end of the worker that asks. -/
  | fatal
  deriving DecidableEq, Repr

/-- Objects under the texts of their addresses. -/
abbrev Shelf : Type := List (String × ShelfItem)

namespace Shelf

/-- Status of an address under which nothing lies. -/
def absent : Nat := 404

/-- What an address that nothing special lies under gives. -/
def object (shelf : Shelf) (url : String) : Except (Halt FetchError) (List UInt8) := do
  let _ ← (ObjectStore.address url).mapError .failed
  match shelf.lookup url with
  | some (.object body) => .ok body
  | _ => .error (.failed (.status url absent))

/-- The shelf as an object store. -/
def objectStore (shelf : Shelf) : ObjectStore where
  bytes url :=
    match shelf.lookup url with
    | some (.refusal status) => .error (.failed (.status url status))
    | some .fatal => .error .crashed
    | _ => shelf.object url
  stream url :=
    match shelf.lookup url with
    | some (.refusal status) => .error (.failed (.status url status))
    | some (.broken arriving) => .ok { bytes := arriving, fails := true }
    | some .fatal => .error .crashed
    | _ => (shelf.object url).map fun body => { bytes := body }

end Shelf
end JarLedger
