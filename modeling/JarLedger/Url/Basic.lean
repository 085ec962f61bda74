import JarLedger.Url.Host

/-!
# Web addresses

An address of an object on the web, with every part in its normal form, and its text.
-/

namespace JarLedger

/-- The two ways to ask for an object on the web. -/
inductive WebScheme where
  | http
  | https
  deriving DecidableEq, Repr

namespace WebScheme

/-- Name of a scheme. -/
def name : WebScheme → String
  | .http => "http"
  | .https => "https"

/-- The port that is meant where none is given. -/
def defaultPort : WebScheme → Nat
  | .http => 80
  | .https => 443

/-- The scheme of a name. -/
def ofName? : String → Option WebScheme
  | "http" => some .http
  | "https" => some .https
  | _ => none

end WebScheme

/-- An address on the web.  All texts are in their escaped form. -/
structure Url where
  scheme : WebScheme
  /-- Name to log in with; it may be empty. -/
  user : String
  /-- Password to log in with; it may be empty. -/
  password : String
  host : Host
  /-- The port, unless it is the one meant anyway. -/
  port : Option Nat
  /-- The path from the root on, without dot segments. -/
  segments : List String
  /-- What follows the question mark, if there is one. -/
  query : Option String
  /-- What follows the number sign, if there is one. -/
  fragment : Option String
  deriving DecidableEq, Repr

namespace Url

/-- The part before the host. -/
def credentialsText (url : Url) : String :=
  let password := if url.password.isEmpty then "" else ":" ++ url.password
  if url.user.isEmpty ∧ url.password.isEmpty then "" else url.user ++ password ++ "@"

/-- A part that stands behind a mark, if it is there. -/
def markedText (mark : String) : Option String → String
  | none => ""
  | some text => mark ++ text

/-- Path and query: what is asked of the host. -/
def requestTarget (url : Url) : String :=
  String.join (url.segments.map ("/" ++ ·)) ++ markedText "?" url.query

/-- The whole address. -/
def text (url : Url) : String :=
  url.scheme.name ++ "://" ++ url.credentialsText ++ url.host.text ++
    markedText ":" (url.port.map toString) ++ url.requestTarget ++ markedText "#" url.fragment

end Url
end JarLedger
