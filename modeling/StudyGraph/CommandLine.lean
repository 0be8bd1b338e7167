import StudyGraph.Text

/-!
# The command line

What the arguments of the program can ask for, and with which flags. `CommandLine.insertCompile`
puts the word `compile` in front of the first argument that does not start with a hyphen, unless
that is a command already; what the arguments then ask for is up to a reader, whose answer is a
`CommandLine.Reading`. A flag belongs to the program or to a command.
-/

namespace StudyGraph

/-- How to compile files. -/
structure CompileOptions where
  /-- The files, in order. -/
  files : List Text
  /-- Skip blocks that fail instead of stopping at the first. -/
  keepGoing : Bool
  /-- Show the whole graph. -/
  dump : Bool
  /-- Report failures and nothing else. -/
  check : Bool
  /-- List the raw texts with the identities they gave. -/
  raws : Bool
  deriving DecidableEq

/-- How to run fixtures. -/
structure TestOptions where
  /-- A fixture, or a folder with fixtures. -/
  path : Text
  /-- The requested categories. -/
  categories : List Text
  /-- List the categories and do nothing else. -/
  listCategories : Bool
  deriving DecidableEq

/-- What to do. -/
inductive Command where
  | compile (options : CompileOptions)
  | test (options : TestOptions)
  deriving DecidableEq

/-- A command with the flags of the program. -/
structure Invocation where
  /-- What to do. -/
  command : Command
  /-- Write without colours. -/
  noColor : Bool
  /-- Log progress. -/
  verbose : Bool
  deriving DecidableEq

namespace CommandLine

/-- What a reader makes of the arguments. -/
inductive Reading where
  /-- A command is to be carried out. -/
  | run (invocation : Invocation)
  /-- Help or the version is asked for, and this is what the reader writes. -/
  | answered (output : List Text)
  /-- The arguments make no command: the exit code, and what the reader writes about it. -/
  | rejected (code : Nat) (errors : List Text)
  deriving DecidableEq

/-! ## Flags -/

/-- The flags. -/
inductive Flag where
  | noColor
  | verbose
  | keepGoing
  | dump
  | check
  | raws
  | category
  | listCategories
  | help
  | version
  deriving DecidableEq

/-- The long name of a flag, behind two hyphens. -/
def Flag.long : Flag → Text
  | noColor => "no-color"
  | verbose => "verbose"
  | keepGoing => "keep-going"
  | dump => "dump"
  | check => "check"
  | raws => "raws"
  | category => "category"
  | listCategories => "list-categories"
  | help => "help"
  | version => "version"

/-- The letter of a flag, behind one hyphen. -/
def Flag.letter? : Flag → Option Char
  | verbose => some 'v'
  | keepGoing => some 'k'
  | category => some 'c'
  | help => some 'h'
  | version => some 'V'
  | _ => none

/-- Whether a flag takes a value. -/
def Flag.takesValue (flag : Flag) : Bool :=
  flag = category

/-- The flags of the program. -/
def programFlags : List Flag := [.noColor, .verbose, .help, .version]

/-- The flags of the command to compile. -/
def compileFlags : List Flag :=
  [.noColor, .verbose, .keepGoing, .dump, .check, .raws, .help]

/-- The flags of the command to run fixtures. -/
def testFlags : List Flag := [.noColor, .verbose, .category, .listCategories, .help]

/-! ## Commands -/

/-- The names of the commands. -/
def commandNames : List Text := ["compile", "test", "help"]

/-- The arguments with `compile` in front of the first one that does not start with a hyphen, unless
that is the name of a command. -/
def insertCompile : List Text → List Text
  | [] => []
  | argument :: rest =>
    if argument.head? = some '-' then argument :: insertCompile rest
    else if argument ∈ commandNames then argument :: rest
    else "compile".toList :: argument :: rest

end CommandLine

end StudyGraph
