import JarLedger.Message

/-!
# Failures

Everything that can end the work on an announcement or a document, as causes, with the wording of
each in one place.
-/

namespace JarLedger

/-- One step into a JSON value. -/
inductive Step where
  /-- Into the member of a name. -/
  | key (name : String)
  /-- Into the item at an index. -/
  | index (position : Nat)
  deriving DecidableEq, Repr

/-- A place in a JSON value, from the outside in. -/
abbrev Path : Type := List Step

/-- A place as text: names divided by points, indices in brackets. -/
def Path.text (path : Path) : String :=
  path.foldl
    (fun text step =>
      match step with
      | .key name => if text.isEmpty then name else text ++ "." ++ name
      | .index position => text ++ "[" ++ toString position ++ "]")
    ""

/-- What a member of a document has to be. -/
inductive Expected where
  | string
  | integer
  | integer32
  | boolean
  | object
  | array
  | jarList
  deriving DecidableEq, Repr

/-- Name of what is expected. -/
def Expected.name : Expected → String
  | .string => "a string"
  | .integer => "an integer"
  | .integer32 => "a 32-bit integer"
  | .boolean => "a boolean"
  | .object => "an object"
  | .array => "an array"
  | .jarList => "a jar list"

/-- The object could not be fetched. -/
inductive FetchError where
  /-- The text is no address. -/
  | unreadableUrl (url : String)
  /-- The address is of another kind than those served. -/
  | unsupportedScheme (url scheme : String)
  /-- No answer came, or not all of it. -/
  | unreachable (url : String)
  /-- The answer carries a status that is no success. -/
  | status (url : String) (code : Nat)
  deriving DecidableEq, Repr

/-- The packaging is damaged. -/
inductive ExtractionError where
  | blob
  | archive
  deriving DecidableEq, Repr

/-- An envelope or document is malformed. -/
inductive ParseError where
  | malformedJson
  | notAnObject
  | missingField (field : String)
  /-- A field holds text that is no timestamp. -/
  | unreadableTimestamp (field : String)
  /-- A field holds a value of another type; the text of the value is kept. -/
  | mistypedField (field expected found : String)
  deriving DecidableEq, Repr

/-- A document is of no known shape. -/
inductive ClassificationError where
  | unrecognizedShape
  | missingField (path : Path)
  | invalidField (path : Path) (expected : Expected)
  deriving DecidableEq, Repr

/-- An update does not belong to exactly one stored instance. -/
inductive IntegrityError where
  | unknownLinkingHash (linkingHash : String)
  | notUnique (linkingHash : String) (matching : Nat)
  deriving DecidableEq, Repr

/-- The store refused or failed. -/
inductive PersistenceError where
  | uniqueViolation (linkingHash : String)
  | database
  | inconsistent (reason : String)
  deriving DecidableEq, Repr

/-- Everything that can end the work on one message. -/
inductive IngestError where
  | fetch (cause : FetchError)
  | extraction (cause : ExtractionError)
  | parse (cause : ParseError)
  | classification (cause : ClassificationError)
  | integrity (cause : IntegrityError)
  | persistence (cause : PersistenceError)
  deriving DecidableEq, Repr

/-- The kinds that failures are counted under. -/
inductive ErrorKind where
  | fetch
  | extraction
  | parse
  | classification
  | integrity
  | persistence
  deriving DecidableEq, Repr

namespace ErrorKind

/-- All kinds in order. -/
def all : List ErrorKind := [.fetch, .extraction, .parse, .classification, .integrity, .persistence]

/-- Name of a kind. -/
def name : ErrorKind → String
  | .fetch => "fetch_error"
  | .extraction => "extraction_error"
  | .parse => "parse_error"
  | .classification => "classification_error"
  | .integrity => "integrity_error"
  | .persistence => "persistence_error"

end ErrorKind

/-- A name in the quotes that messages use for names. -/
def quotedName (name : String) : String := "\x60" ++ name ++ "\x60"

/-- Wording of a fetch failure. -/
def FetchError.message : FetchError → String
  | .unreadableUrl url => "invalid url " ++ url
  | .unsupportedScheme url scheme =>
      "invalid url " ++ url ++ ": unsupported scheme " ++ quotedName scheme
  | .unreachable url => "request to " ++ url ++ " failed"
  | .status url code => "object store returned status " ++ toString code ++ " for " ++ url

/-- Wording of damaged packaging. -/
def ExtractionError.message : ExtractionError → String
  | .blob => "failed to decompress payload"
  | .archive => "failed to read archive"

/-- Wording of a malformed envelope or document. -/
def ParseError.message : ParseError → String
  | .malformedJson => "malformed json"
  | .notAnObject => "expected a json object"
  | .missingField field => "missing field " ++ quotedName field
  | .unreadableTimestamp field => "invalid field " ++ quotedName field
  | .mistypedField field expected found =>
      "invalid field " ++ quotedName field ++ ": expected " ++ expected ++ ", found " ++ found

/-- Wording of a document of no known shape. -/
def ClassificationError.message : ClassificationError → String
  | .unrecognizedShape => "payload is neither a new instance nor an update"
  | .missingField path => "payload is missing required field " ++ quotedName path.text
  | .invalidField path expected =>
      "payload field " ++ quotedName path.text ++ " is not " ++ expected.name

/-- Wording of an update without its one instance. -/
def IntegrityError.message : IntegrityError → String
  | .unknownLinkingHash linkingHash => "update seen for unknown linking hash: " ++ linkingHash
  | .notUnique linkingHash matching =>
      "linking hash not unique: " ++ linkingHash ++ " matches " ++ toString matching ++ " instances"

/-- Wording of a store failure. -/
def PersistenceError.message : PersistenceError → String
  | .uniqueViolation linkingHash =>
      "an instance with linking hash " ++ linkingHash ++ " already exists"
  | .database => "database error"
  | .inconsistent reason => "inconsistent store state: " ++ reason

namespace IngestError

/-- The kind that a failure is counted under. -/
def kind : IngestError → ErrorKind
  | .fetch _ => .fetch
  | .extraction _ => .extraction
  | .parse _ => .parse
  | .classification _ => .classification
  | .integrity _ => .integrity
  | .persistence _ => .persistence

/-- Wording of a failure. -/
def message : IngestError → String
  | .fetch cause => cause.message
  | .extraction cause => cause.message
  | .parse cause => cause.message
  | .classification cause => cause.message
  | .integrity cause => cause.message
  | .persistence cause => cause.message

/-- Whether the failure stands for one that a lower layer reported. -/
def wrapsCause : IngestError → Bool
  | .fetch (.unreachable _) => true
  | .extraction _ => true
  | .parse .malformedJson => true
  | .persistence .database => true
  | _ => false

end IngestError
end JarLedger
