import JarLedger.ObjectStore.Basic

/-!
# Objects on the web

An object store that asks the host named in an address, once for each fetch.  Every status but those
of success counts as a failure, and so does a body that does not arrive in full.
-/

namespace JarLedger

/-- What becomes of a request. -/
inductive Exchange where
  /-- No answer comes. -/
  | unanswered
  /-- An answer with a status comes. -/
  | answered (status : Nat) (body : ByteSource)

/-- What every address on the web answers. -/
abbrev Web : Type := Url → Exchange

namespace Web

/-- A web of which nothing can be reached. -/
def unreachable : Web := fun _ => .unanswered

/-- Whether a status tells of success. -/
def isSuccess (status : Nat) : Bool := status / 100 = 2

/-- Ask for an object and look at the status of the answer. -/
def ask (web : Web) (url : Url) : Except FetchError ByteSource :=
  match web url with
  | .unanswered => .error (.unreachable url.text)
  | .answered status body =>
      if isSuccess status then .ok body else .error (.status url.text status)

/-- The whole of a body. -/
def whole (url : Url) (body : ByteSource) : Except FetchError (List UInt8) :=
  if body.fails then .error (.unreachable url.text) else .ok body.bytes

/-- The web as an object store. -/
def objectStore (web : Web) : ObjectStore where
  bytes text := (do
    let url ← ObjectStore.address text
    whole url (← web.ask url)).mapError .failed
  stream text := (ObjectStore.address text >>= web.ask).mapError .failed

end Web
end JarLedger
