import JarLedger.WorkerPool.Tally

/-!
# Command lines

A command line names a command, `migrate` or `run`, and options.  The option that names the settings
file may stand before the command or after it, and the later one counts; within either part an
option is given at most once.  An option takes its value behind an equals sign or as the next
argument, which must not look like an option.  Asking for help wins over what is wrong further on.
-/

namespace JarLedger

/-- What a command line asks for. -/
inductive Command where
  /-- Bring the tables of the database up to date. -/
  | migrate
  /-- Work on announcements from the standard input; a dry run keeps everything in memory. -/
  | run (channel : Channel) (isDry : Bool)
  deriving DecidableEq, Repr

/-- A command with the settings file, if one is named. -/
structure Invocation where
  command : Command
  settingsPath : Option String
  deriving DecidableEq, Repr

/-- What a command line turns out to be. -/
inductive CommandLine where
  /-- Something to do. -/
  | work (invocation : Invocation)
  /-- A question about the program. -/
  | inquiry
  /-- None that is understood. -/
  | misuse
  deriving DecidableEq, Repr

namespace CommandLine

/-- An argument by its form. -/
inductive Argument where
  /-- A name without dashes; a single dash counts as one. -/
  | word (text : String)
  /-- A long option, and the value behind its equals sign. -/
  | long (name : String) (value : Option String)
  /-- Short options behind one dash. -/
  | short (letters : List Char)
  /-- The mark after which nothing is an option. -/
  | divider
  deriving DecidableEq, Repr

/-- The form of an argument. -/
def Argument.ofText (text : String) : Argument :=
  match text.toList with
  | ['-', '-'] => .divider
  | '-' :: '-' :: rest =>
      let name := rest.takeWhile fun character => character ≠ '='
      match rest.drop name.length with
      | [] => .long (String.ofList name) none
      | _ :: value => .long (String.ofList name) (some (String.ofList value))
  | '-' :: letter :: letters => .short (letter :: letters)
  | _ => .word text

/-- Whether an argument asks for help. -/
def Argument.isHelp : Argument → Bool
  | .long "help" none => true
  | .short ('h' :: _) => true
  | _ => false

/-- Whether an argument asks for the version. -/
def Argument.isVersion : Argument → Bool
  | .long "version" none => true
  | .short ('V' :: _) => true
  | _ => false

/-- Name of a channel on the command line. -/
def channel? : String → Option Channel
  | "announce" => some .announce
  | "archive" => some .archive
  | _ => none

/-- Take a value for something that is given at most once and never empty. -/
def takeOnce (before : Option String) (value : String) : Option (Option String) :=
  if before.isSome ∨ value = "" then none else some (some value)

/-- What follows the command `migrate`, with the settings file named so far. -/
def afterMigrate (settingsPath : Option String) : List Argument → CommandLine
  | [] => .work ⟨.migrate, settingsPath⟩
  | [.divider] => .work ⟨.migrate, settingsPath⟩
  | .long "config" (some path) :: rest =>
      match takeOnce settingsPath path with
      | some path => afterMigrate path rest
      | none => .misuse
  | .long "config" none :: .word path :: rest =>
      match takeOnce settingsPath path with
      | some path => afterMigrate path rest
      | none => .misuse
  | argument :: _ => if argument.isHelp then .inquiry else .misuse

/-- The options of the command `run`. -/
structure RunOptions where
  channel : Option Channel := none
  isDry : Bool := false
  settingsPath : Option String := none

/-- The options with a channel named, if it can be. -/
def RunOptions.withChannel? (options : RunOptions) (name : String) : Option RunOptions :=
  if options.channel.isSome then none
  else (channel? name).map fun channel => { options with channel := some channel }

/-- The options with a settings file named, if it can be. -/
def RunOptions.withSettings? (options : RunOptions) (path : String) : Option RunOptions :=
  (takeOnce options.settingsPath path).map fun settingsPath => { options with settingsPath }

/-- The command that the options make. -/
def RunOptions.invocation (options : RunOptions) : Invocation :=
  ⟨.run (options.channel.getD .announce) options.isDry, options.settingsPath⟩

/-- What follows the command `run`. -/
def afterRun (options : RunOptions) : List Argument → CommandLine
  | [] => .work options.invocation
  | [.divider] => .work options.invocation
  | .long "dry-run" none :: rest =>
      if options.isDry then .misuse else afterRun { options with isDry := true } rest
  | .long "channel" (some name) :: rest =>
      match options.withChannel? name with
      | some options => afterRun options rest
      | none => .misuse
  | .long "channel" none :: .word name :: rest =>
      match options.withChannel? name with
      | some options => afterRun options rest
      | none => .misuse
  | .long "config" (some path) :: rest =>
      match options.withSettings? path with
      | some options => afterRun options rest
      | none => .misuse
  | .long "config" none :: .word path :: rest =>
      match options.withSettings? path with
      | some options => afterRun options rest
      | none => .misuse
  | argument :: _ => if argument.isHelp then .inquiry else .misuse

/-- Whether help can be asked for about a command. -/
def canExplain : List Argument → Bool
  | [] => true
  | [.word name] => name = "run" ∨ name = "migrate" ∨ name = "help"
  | _ => false

/-- The settings file named before the command. -/
structure OuterPath where
  /-- The one that is accepted. -/
  accepted : Option String := none
  /-- One that is read but held to no rule yet. -/
  held : Option String := none

/-- Hold what is read to the rules. -/
def OuterPath.settle? (outer : OuterPath) : Option (Option String) :=
  match outer.held with
  | none => some outer.accepted
  | some path => takeOnce outer.accepted path

/-- Complete a command by the settings file named before it, which counts less. -/
def withOuter (outer : OuterPath) : CommandLine → CommandLine
  | .work invocation =>
      match outer.settle? with
      | none => .misuse
      | some path =>
          .work { invocation with settingsPath := invocation.settingsPath <|> path }
  | line => line

/-- What a command line is from its start. -/
def ofArguments (outer : OuterPath) : List Argument → CommandLine
  | .word "migrate" :: rest => withOuter outer (afterMigrate none rest)
  | .word "run" :: rest => withOuter outer (afterRun {} rest)
  | .word "help" :: rest => if canExplain rest then .inquiry else .misuse
  | .long "config" (some path) :: rest =>
      match outer.settle?.bind (takeOnce · path) with
      | some accepted => ofArguments { accepted } rest
      | none => .misuse
  | .long "config" none :: .word path :: rest =>
      match outer.settle? with
      | some accepted => ofArguments { accepted, held := some path } rest
      | none => .misuse
  | argument :: _ =>
      if outer.settle?.isSome ∧ (argument.isHelp ∨ argument.isVersion) then .inquiry else .misuse
  | [] => .misuse

/-- Read a command line. -/
def read (arguments : List String) : CommandLine :=
  ofArguments {} (arguments.map Argument.ofText)

end CommandLine
end JarLedger
