import JarLedger.Instance

/-!
# Messages and announcements

An announcement says where a snapshot lies.  A snapshot's document becomes a message: a new
instance, or the jars newly seen on a known one.
-/

namespace JarLedger

/-- Where a snapshot lies and how it is packed. -/
structure Announcement where
  accountId : Option String
  orgId : String
  contentType : String
  url : Option String
  timestamp : Instant
  requestId : Option String
  /-- Whether the snapshot is an archive of documents. -/
  isRuntimes : Bool
  deriving DecidableEq, Repr

/-- The flow that brought a document. -/
inductive Source where
  /-- One compressed document. -/
  | singleBlob
  /-- A compressed archive of documents. -/
  | archive
  deriving DecidableEq, Repr

namespace Source

/-- All flows in order. -/
def all : List Source := [.singleBlob, .archive]

/-- Name of a flow. -/
def name : Source → String
  | .singleBlob => "single_blob"
  | .archive => "archive"

/-- The flow of a name. -/
def ofName? (name : String) : Option Source := all.find? fun source => source.name = name

end Source

/-- Jars newly seen on a known instance. -/
structure Delta where
  linkingHash : String
  jars : JarSet

/-- What a document says. -/
inductive Message where
  | newInstance (new : Instance)
  | update (delta : Delta)

namespace Message

/-- The instance that the message is about. -/
def linkingHash : Message → String
  | .newInstance new => new.linkingHash
  | .update delta => delta.linkingHash

/-- Name of the message's shape. -/
def variantName : Message → String
  | .newInstance (.jvm _) => "new_jvm_instance"
  | .newInstance (.appServer _) => "new_app_server_instance"
  | .update _ => "update_instance"

end Message
end JarLedger
