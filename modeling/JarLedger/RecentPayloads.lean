import JarLedger.Bytes.Utf8
import JarLedger.Digest.Sha2
import JarLedger.Message
import JarLedger.Settings.Basic

/-!
# Documents applied recently

A document that was applied less than a window ago is not worked on again.  Documents are known by
their SHA-256 digest, each flow has its own window, and a window of zero turns the check off.  Times
are milliseconds since the start of 1970.  Old marks are swept away when a new one is made.
-/

namespace JarLedger

/-- A document as it is remembered. -/
abbrev Fingerprint : Type := List UInt8

/-- The documents applied recently. -/
structure RecentPayloads where
  /-- Window of single documents, in milliseconds. -/
  singleBlobWindow : Int
  /-- Window of documents of an archive, in milliseconds. -/
  archiveWindow : Int
  /-- When a document of a flow was applied last. -/
  applied : List ((Source × Fingerprint) × Int) := []

namespace RecentPayloads

/-- Greatest window, in milliseconds. -/
def greatestWindow : Int := Int64.maxValue.toInt

/-- A window of so many seconds in milliseconds, if it is not too large. -/
def windowOfSecs? (secs : Nat) : Option Int :=
  if (secs : Int) ≤ greatestWindow / 1000 then some (secs * 1000) else none

/-- No documents, with the windows of the settings; one that is too large is the greatest. -/
def ofSettings (settings : Settings) : RecentPayloads where
  singleBlobWindow := (windowOfSecs? settings.dedupeWindowSecs).getD greatestWindow
  archiveWindow := (windowOfSecs? settings.archiveDedupeWindowSecs).getD greatestWindow

/-- Digest of a document. -/
def fingerprint (payload : String) : Fingerprint := Sha2.sha256 (Utf8.encode payload)

/-- Window of a flow. -/
def window (recent : RecentPayloads) : Source → Int
  | .singleBlob => recent.singleBlobWindow
  | .archive => recent.archiveWindow

/-- How many documents are remembered. -/
def size (recent : RecentPayloads) : Nat := recent.applied.length

/-- Whether nothing is remembered. -/
def isEmpty (recent : RecentPayloads) : Bool := recent.applied.isEmpty

/-- Whether a document is to be worked on: it was not applied within the window. -/
def shouldProcess (recent : RecentPayloads) (payload : String) (now : Int) (source : Source) :
    Bool :=
  let window := recent.window source
  if window ≤ 0 then true
  else
    match recent.applied.lookup (source, fingerprint payload) with
    | some appliedAt => window ≤ now - appliedAt
    | none => true

/-- The marks whose windows are not over. -/
def prune (recent : RecentPayloads) (now : Int) : List ((Source × Fingerprint) × Int) :=
  recent.applied.filter fun mark => now - mark.2 < recent.window mark.1.1

/-- Remember a document that was applied. -/
def markApplied (recent : RecentPayloads) (payload : String) (now : Int) (source : Source) :
    RecentPayloads :=
  if recent.window source ≤ 0 then recent
  else
    let key := (source, fingerprint payload)
    { recent with applied := (key, now) :: (recent.prune now).filter fun mark => mark.1 ≠ key }

end RecentPayloads
end JarLedger
