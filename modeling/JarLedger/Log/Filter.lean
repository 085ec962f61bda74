import JarLedger.Text.Blank
import JarLedger.Text.Case
import JarLedger.Text.Whole

/-!
# Log filters

Which events are noted.  A filter is a list of directives between commas.  A directive is a level
for all events, or the beginning of a subject's name with a level behind an equals sign; a name
alone admits every level.  Of the directives about a subject the one with the longest name counts,
and of those with one name the last.  A name may be narrowed to a span in brackets; no event of this
program lies in a span, so such a directive admits nothing.
-/

namespace JarLedger

/-- How grave an event is. -/
inductive Severity where
  | error
  | warning
  | info
  | debug
  | trace
  deriving DecidableEq, Repr

/-- How verbose a level has to be for events of a severity. -/
def Severity.rank : Severity → Nat
  | .error => 1
  | .warning => 2
  | .info => 3
  | .debug => 4
  | .trace => 5

/-- Name of a severity. -/
def Severity.name : Severity → String
  | .error => "ERROR"
  | .warning => "WARN"
  | .info => "INFO"
  | .debug => "DEBUG"
  | .trace => "TRACE"

/-- One directive of a filter. -/
structure LogDirective where
  /-- Beginning of the subjects that it is about; empty for all. -/
  subject : List Char
  /-- Whether it is narrowed to a span. -/
  isNarrowed : Bool
  /-- Greatest rank that it admits. -/
  level : Nat
  deriving DecidableEq, Repr

namespace LogDirective

/-- The level that admits everything. -/
def everything : Nat := 5

/-- The level that a word or a number names. -/
def level? (text : List Char) : Option Nat :=
  match Text.lower (String.ofList text) with
  | "off" => some 0
  | "error" => some 1
  | "warn" => some 2
  | "info" => some 3
  | "debug" => some 4
  | "trace" => some 5
  | _ =>
      let digits := if text.head? = some '+' then text.tail else text
      (Text.natural? digits).filter fun level => level ≤ everything

/-- The level after a subject; if none stands there, it is the one that admits everything. -/
def levelAfter? : List Char → Option Nat
  | [] => some everything
  | '=' :: text => if text.isEmpty then some everything else level? text
  | _ => none

/-- The text after the brackets of a span, of which the opening one is read.  The span may have
fields in braces, none of which may be empty. -/
def afterSpan? (text : List Char) : Option (List Char) :=
  let isMark (character : Char) : Bool := character = ']' || character = '\x7b'
  match text.dropWhile fun character => !isMark character with
  | ']' :: rest => some rest
  | _ :: rest =>
      let field := rest.takeWhile fun character => character ≠ '\x7d'
      match field.isEmpty, rest.drop field.length with
      | false, _ :: ']' :: rest => some rest
      | _, _ => none
  | [] => none

/-- Whether a directive may start with a character. -/
def isStart (character : Char) : Bool :=
  character.isAlphanum || character = '-' || character = ':' || character = '_' ||
    (0xBF < character.toNat && !(0x2000 ≤ character.toNat && character.toNat ≤ 0x2BFF) &&
      !(0x3000 ≤ character.toNat && character.toNat ≤ 0x3004) && character.toNat < 0xE000)

/-- The directive of a text without blanks at its ends. -/
def ofBody? (text : List Char) : Option LogDirective :=
  let subject := text.takeWhile fun character => character ≠ '=' ∧ character ≠ '['
  match text.drop subject.length with
  | [] =>
      match level? subject with
      | some level => some ⟨[], false, level⟩
      | none => some ⟨subject, false, everything⟩
  | '[' :: rest => (afterSpan? rest).bind fun rest => (levelAfter? rest).map (⟨subject, true, ·⟩)
  | rest => (levelAfter? rest).map (⟨subject, false, ·⟩)

/-- The directive that a text is.  Blanks at its ends belong to the name where nothing else stands;
where a level stands they are not allowed. -/
def ofText? (text : List Char) : Option LogDirective :=
  match Text.trimList Text.isBlank text with
  | [] => none
  | first :: rest =>
      if first ≠ '[' ∧ !isStart first then none
      else if first :: rest = text then ofBody? text
      else if rest.contains '=' then none
      else if (first :: rest).contains '[' then ofBody? (first :: rest)
      else some ⟨text, false, everything⟩

/-- Whether the directive is about a subject. -/
def isAbout (directive : LogDirective) (subject : String) : Bool :=
  !directive.isNarrowed && directive.subject.isPrefixOf subject.toList

end LogDirective

/-- Which events are noted. -/
structure LogFilter where
  directives : List LogDirective
  deriving DecidableEq, Repr

namespace LogFilter

/-- The filter that a text is. -/
def ofText? (text : String) : Option LogFilter :=
  let parts := (text.splitOn ",").filter fun part => part ≠ ""
  (parts.mapM fun part => LogDirective.ofText? part.toList).map LogFilter.mk

/-- The directive that counts for a subject. -/
def decisive? (filter : LogFilter) (subject : String) : Option LogDirective :=
  (filter.directives.filter fun directive => directive.isAbout subject).foldl
    (fun (best : Option LogDirective) directive =>
      match best with
      | none => some directive
      | some other =>
          if other.subject.length ≤ directive.subject.length then some directive else best)
    none

/-- Whether events of a subject and a severity are noted. -/
def admits (filter : LogFilter) (subject : String) (severity : Severity) : Bool :=
  match filter.decisive? subject with
  | none => false
  | some directive => severity.rank ≤ directive.level

end LogFilter
end JarLedger
