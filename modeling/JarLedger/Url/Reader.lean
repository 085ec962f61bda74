import JarLedger.Text.Blank
import JarLedger.Url.Basic

/-!
# Reading addresses

Reading an address as browsers do: blanks around it, tabs and line ends in it are left out,
backslashes count as slashes, dot segments are resolved, and what may not stand as it is is escaped.
An address of another scheme than those of the web is only told apart from a text that is none.
-/

namespace JarLedger

/-- What a text is the address of. -/
inductive Target where
  /-- An object on the web. -/
  | web (url : Url)
  /-- Something that is reached in another way. -/
  | foreign (scheme : String)
  deriving DecidableEq, Repr

namespace Url

/-- Characters escaped in a fragment. -/
def fragmentEscapes : List Char := " \"<>\x60".toList

/-- Characters escaped in a query. -/
def queryEscapes : List Char := " \"#<>'".toList

/-- Characters escaped in a path. -/
def pathEscapes : List Char := fragmentEscapes ++ "#?\x7b\x7d".toList

/-- Characters escaped in a name or password. -/
def credentialEscapes : List Char := pathEscapes ++ "/:;=@[\\]^|".toList

/-- The text that is read: nothing blank around it, no tabs and line ends in it. -/
def significant (text : String) : List Char :=
  let inner := Text.trimList (fun character => character.toNat ≤ 0x20) text.toList
  inner.filter fun character => character ∉ ['\t', '\n', '\r']

/-- Whether a character can stand in the name of a scheme. -/
def isSchemeChar (character : Char) : Bool :=
  character.isAlphanum ∨ character ∈ ['+', '-', '.']

/-- The name of the scheme in small letters, and the text after the colon. -/
def splitScheme? (text : List Char) : Option (String × List Char) :=
  match text.span isSchemeChar with
  | (first :: more, ':' :: rest) =>
      if first.isAlpha then some (String.ofList ((first :: more).map Char.toLower), rest) else none
  | _ => none

/-- A text up to the last commercial at, and after it. -/
def splitLastAt? (text : List Char) : Option (List Char × List Char) :=
  match text.reverse.span fun character => character ≠ '@' with
  | (after, _ :: before) => some (before.reverse, after.reverse)
  | (_, []) => none

/-- A text up to the first of a character, and after it if it is there. -/
def splitFirst (mark : Char) (text : List Char) : List Char × Option (List Char) :=
  match text.span fun character => character ≠ mark with
  | (before, _ :: after) => (before, some after)
  | (before, []) => (before, none)

/-- A text up to the first colon outside brackets, and from there on. -/
def splitHost (inside : Bool) : List Char → List Char × List Char
  | [] => ([], [])
  | character :: rest =>
      if character = ':' ∧ !inside then ([], character :: rest)
      else
        let inside := if character = '[' then true else if character = ']' then false else inside
        let (host, tail) := splitHost inside rest
        (character :: host, tail)

/-- The port that follows a host: none, or a number of two bytes. -/
def port? : List Char → Option (Option Nat)
  | ':' :: digits =>
      if digits.isEmpty then some none
      else
        match Text.natural? digits with
        | some number => if number < UInt16.size then some (some number) else none
        | none => none
  | _ => some none

/-- The part of an address that names the host. -/
structure Authority where
  user : String
  password : String
  host : Host
  port : Option Nat

/-- Read the part that names a host; the host cannot be left out. -/
def Authority.ofText? (text : List Char) : Option Authority := do
  let (credentials, place) := (splitLastAt? text).getD ([], text)
  let (user, password) := splitFirst ':' credentials
  let (name, tail) := splitHost false place
  let host ← if name.isEmpty then none else Host.ofText? name
  let port ← port? tail
  let escaped (part : List Char) : String :=
    String.ofList (Percent.encode credentialEscapes part)
  return { user := escaped user, password := escaped (password.getD []), host, port }

/-- Whether a segment of a path means the present directory. -/
def isSingleDot (segment : List Char) : Bool :=
  [".", "%2e"].contains (String.ofList (segment.map Char.toLower))

/-- Whether a segment of a path means the directory above. -/
def isDoubleDot (segment : List Char) : Bool :=
  ["..", ".%2e", "%2e.", "%2e%2e"].contains (String.ofList (segment.map Char.toLower))

/-- The segments of a path with the dot segments resolved; `kept` holds those so far, last first. -/
def resolve (kept : List String) : List (List Char) → List String
  | [] => kept.reverse
  | segment :: rest =>
      let close (kept : List String) : List String := if rest.isEmpty then "" :: kept else kept
      if isDoubleDot segment then resolve (close kept.tail) rest
      else if isSingleDot segment then resolve (close kept) rest
      else resolve (String.ofList (Percent.encode pathEscapes segment) :: kept) rest

/-- The segments of the text after a host. -/
def segmentsOf (path : List Char) : List String :=
  resolve [] ((path.drop 1).splitOnP fun character => character = '/' ∨ character = '\\')

/-- The text that names the host, and the text after it. -/
def splitAuthority (ends text : List Char) : List Char × List Char :=
  text.span fun character => character ∉ ends

/-- Characters that end the name of the host. -/
def webEnds : List Char := ['/', '\\', '?', '#']

/-- The text after any number of slashes. -/
def skipSlashes (text : List Char) : List Char :=
  text.dropWhile fun character => character = '/' ∨ character = '\\'

/-- Read the text after the colon of an address on the web. -/
def ofRest? (scheme : WebScheme) (text : List Char) : Option Url := do
  let (place, rest) := splitAuthority webEnds (skipSlashes text)
  let authority ← Authority.ofText? place
  let (front, fragment) := splitFirst '#' rest
  let (path, query) := splitFirst '?' front
  let escaped (escapes part : List Char) : String := String.ofList (Percent.encode escapes part)
  return {
    scheme
    user := authority.user
    password := authority.password
    host := authority.host
    port := authority.port.filter fun port => port ≠ scheme.defaultPort
    segments := segmentsOf path
    query := query.map (escaped queryEscapes)
    fragment := fragment.map (escaped fragmentEscapes) }

/-- Whether the text after the colon of an address that is no file, but names its host as one on the
web does, is well formed. -/
def namesHost (text : List Char) : Bool :=
  (Authority.ofText? (splitAuthority webEnds (skipSlashes text)).1).isSome

/-- Whether a text is the letter of a drive. -/
def isDrive : List Char → Bool
  | [letter, mark] => letter.isAlpha && (mark = ':' ∨ mark = '|')
  | _ => false

/-- Whether the text after the colon of the address of a file is well formed. -/
def namesFile : List Char → Bool
  | first :: second :: rest =>
      if first ∈ ['/', '\\'] ∧ second ∈ ['/', '\\'] then
        let host := (splitAuthority webEnds rest).1
        host.isEmpty || isDrive host || (Host.ofText? host).isSome
      else true
  | _ => true

/-- Characters that cannot stand in a host of an unknown scheme. -/
def unknownHostRefuses : List Char := "\x00\t\n\r #/:<>?@[\\]^|".toList

/-- Whether a text can be a host of an unknown scheme. -/
def isUnknownHost : List Char → Bool
  | '[' :: inner => inner.getLast? = some ']' && (Host.sixteen? inner.dropLast).isSome
  | host => host.all fun character => character ∉ unknownHostRefuses

/-- Whether the part that names a host in an unknown scheme is well formed, if something may follow
it.  The host may be empty if nothing else is there. -/
def isUnknownAuthority (text rest : List Char) : Bool :=
  let (credentials, place) := (splitLastAt? text).getD ([], text)
  let given := splitFirst ':' credentials
  let logsIn := !given.1.isEmpty || !(given.2.getD []).isEmpty
  let (name, tail) := splitHost false place
  let alone := !logsIn && tail.isEmpty && !(text == ['@'] && !rest.isEmpty)
  let port := tail.takeWhile fun character => character ≠ '\\'
  (!name.isEmpty || alone) && isUnknownHost name && (port? port).isSome

/-- Whether the text after the colon of an address of an unknown scheme is well formed. -/
def isUnknownRest : List Char → Bool
  | '/' :: '/' :: text =>
      let (place, rest) := splitAuthority ['/', '?', '#'] text
      isUnknownAuthority place rest
  | _ => true

/-- Whether the text after the colon is well formed for the name of a scheme off the web. -/
def isForeignRest (scheme : String) (rest : List Char) : Bool :=
  if scheme = "file" then namesFile rest
  else if ["ws", "wss", "ftp"].contains scheme then namesHost rest
  else isUnknownRest rest

/-- Read an address. -/
def target? (text : String) : Option Target := do
  let (name, rest) ← splitScheme? (significant text)
  match WebScheme.ofName? name with
  | some scheme => (ofRest? scheme rest).map .web
  | none => if isForeignRest name rest then some (.foreign name) else none

end Url
end JarLedger
