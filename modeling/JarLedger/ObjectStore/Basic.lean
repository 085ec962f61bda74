import JarLedger.Failure
import JarLedger.Gzip.Member
import JarLedger.Url.Reader

/-!
# Object stores

The place where uploaded snapshots lie.  An object is asked for by its address, which has to be one
of the web; it comes as a whole or as a stream that may fail half way.
-/

namespace JarLedger

/-- Why work ended without a result. -/
inductive Halt (ε : Type) where
  /-- A failure that is accounted for. -/
  | failed (cause : ε)
  /-- The worker itself died. -/
  | crashed
  deriving DecidableEq, Repr

/-- Carry a failure into the failures of a larger piece of work. -/
def Halt.map (widen : ε → ε') : Halt ε → Halt ε'
  | .failed cause => .failed (widen cause)
  | .crashed => .crashed

/-- A place that objects are fetched from. -/
structure ObjectStore where
  /-- The whole object of an address. -/
  bytes : String → Except (Halt FetchError) (List UInt8)
  /-- The object of an address as it arrives. -/
  stream : String → Except (Halt FetchError) ByteSource

namespace ObjectStore

/-- Read the address of an object. -/
def address (text : String) : Except FetchError Url :=
  match Url.target? text with
  | some (.web url) => .ok url
  | some (.foreign scheme) => .error (.unsupportedScheme text scheme)
  | none => .error (.unreadableUrl text)

end ObjectStore
end JarLedger
