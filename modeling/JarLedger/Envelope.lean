import JarLedger.Failure
import JarLedger.Json.Reader
import JarLedger.Json.Printer
import JarLedger.Time.Rfc3339

/-!
# Envelopes

An envelope is a JSON object that carries an announcement.  Each field is taken from the object
itself or, if it is absent or `null` there, from the object nested under `platform_metadata`.
-/

namespace JarLedger

/-- The two places that hold the fields of an announcement. -/
structure Envelope where
  /-- Members of the envelope itself. -/
  root : List (String × Json)
  /-- Members of the nested object; none if there is no such object. -/
  platform : List (String × Json)

namespace Envelope

/-- Name of the nested object. -/
def platformName : String := "platform_metadata"

/-- The envelope of an object's members. -/
def ofMembers (members : List (String × Json)) : Envelope :=
  ⟨members, ((members.lookup platformName).bind Json.members?).getD []⟩

/-- Value of a field, the outer one first; `null` counts as absent. -/
def field? (envelope : Envelope) (name : String) : Option Json :=
  (Json.present? envelope.root name).or (Json.present? envelope.platform name)

/-- Text of a field. -/
def text (envelope : Envelope) (name : String) : Except ParseError (Option String) :=
  match envelope.field? name with
  | none => .ok none
  | some (.string text) => .ok (some text)
  | some found => .error (.mistypedField name "a string" found.text)

/-- Truth value of a field. -/
def truth (envelope : Envelope) (name : String) : Except ParseError (Option Bool) :=
  match envelope.field? name with
  | none => .ok none
  | some (.bool truth) => .ok (some truth)
  | some found => .error (.mistypedField name "a boolean" found.text)

/-- Text of a field that has to be there. -/
def requiredText (envelope : Envelope) (name : String) : Except ParseError String := do
  match ← envelope.text name with
  | none => .error (.missingField name)
  | some text => .ok text

/-- The announcement that an envelope carries. -/
def announcement (envelope : Envelope) : Except ParseError Announcement := do
  let orgId ← envelope.requiredText "org_id"
  let timestamp ← envelope.requiredText "timestamp"
  let some timestamp := Instant.ofRfc3339? timestamp | .error (.unreadableTimestamp "timestamp")
  let accountId ← envelope.text "account"
  let contentType ← envelope.text "content_type"
  let url ← envelope.text "url"
  let requestId ← envelope.text "request_id"
  let isRuntimes ← envelope.truth "is_runtimes"
  return {
    accountId, orgId, url, timestamp, requestId
    contentType := contentType.getD ""
    isRuntimes := isRuntimes.getD false }

/-- The announcement of a JSON value. -/
def ofJson (value : Json) : Except ParseError Announcement :=
  match value with
  | .object members => (ofMembers members).announcement
  | _ => .error .notAnObject

/-- The announcement of an envelope's text. -/
def read (envelope : String) : Except ParseError Announcement :=
  match Json.read? envelope with
  | none => .error .malformedJson
  | some value => ofJson value

end Envelope
end JarLedger
