import JarLedger.Json.Reader
import JarLedger.Snapshot.Machine
import JarLedger.Snapshot.Server

/-!
# Classifying a document

The shape of a document alone decides what it says.  A document with a `basic` section describes a
new instance: an application server if it has an `eap` section too, a plain virtual machine
otherwise.  Only a document without `basic` is read as an update, under `updated-jars`.
-/

namespace JarLedger
namespace Snapshot

/-- The update that a section describes. -/
def delta (root : Section) (members : List (String × Json)) :
    Except ClassificationError Delta := do
  let part : Section := ⟨root.pathOf "updated-jars", members⟩
  let linkingHash ← part.requiredText "idHash"
  if linkingHash.isEmpty then .error (part.missing "idHash")
  let jars ← part.jars "jars"
  return { linkingHash, jars }

/-- The message of a document's members; `raw` is the document's text. -/
def messageOf (announcement : Announcement) (raw : String) (members : List (String × Json)) :
    Except ClassificationError Message := do
  let root : Section := ⟨[], members⟩
  let basic ← root.optObject "basic"
  let eap ← root.optObject "eap"
  match basic, eap with
  | some basic, some eap => do
      let machine ← machine announcement root basic
      let server ← server root machine eap raw
      return .newInstance (.appServer server)
  | some basic, none => do
      let machine ← machine announcement root basic
      return .newInstance (.jvm machine)
  | none, _ => do
      match ← root.optObject "updated-jars" with
      | some members => return .update (← delta root members)
      | none => .error .unrecognizedShape

/-- The message of a JSON value whose text is `raw`. -/
def classifyJson (announcement : Announcement) (raw : String) :
    Json → Except IngestError Message
  | .object members => (messageOf announcement raw members).mapError .classification
  | _ => .error (.parse .notAnObject)

/-- The message of a document. -/
def classify (announcement : Announcement) (document : String) : Except IngestError Message :=
  match Json.read? document with
  | none => .error (.parse .malformedJson)
  | some value => classifyJson announcement document value

end Snapshot
end JarLedger
