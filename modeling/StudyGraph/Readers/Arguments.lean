import StudyGraph.CommandLine

/-!
# Reading arguments

The reader of arguments that name a command. They are read level by level: flags of the program up
to the command, then flags and words of the command. Flags of the program may also stand behind the
command. No flag but `--category` is given twice on one level. An error, and help, is written with
the usage of the level that it is about.
-/

namespace StudyGraph.Arguments

open CommandLine

/-! ## Pages of help -/

/-- What is written about a level. -/
structure Page where
  /-- How the level is used. -/
  usage : Text
  /-- What the level is for. -/
  about : Text
  /-- Its commands, arguments and flags. -/
  parts : List Text

/-- The whole page. -/
def Page.help (page : Page) : List Text :=
  page.about :: [] :: page.usage :: [] :: page.parts

/-- An error on the level. -/
def Page.error (page : Page) (message : Text) : List Text :=
  ["error: " ++ message, [], page.usage, [], "For more information, try '--help'."]

/-- The version of the program. -/
def version : Text := "quizgraph 0.1.0"

/-- The page of the program. -/
def programPage : Page where
  usage := "Usage: quizgraph [OPTIONS] <COMMAND>"
  about := "Compile annotated Markdown into a quiz graph"
  parts :=
    ["Commands:",
      "  compile  Compile annotated Markdown files into one graph",
      "  test     Run .test.md fixtures",
      "  help     Print this message or the help of the given subcommand(s)", [],
      "Options:",
      "      --no-color  Disable colored error output",
      "  -v, --verbose   Log compiler progress (same as RUST_LOG=debug)",
      "  -h, --help      Print help",
      "  -V, --version   Print version"]

/-- The page of the command to compile. -/
def compilePage : Page where
  usage := "Usage: quizgraph compile [OPTIONS] <FILES>..."
  about := "Compile annotated Markdown files into one graph"
  parts :=
    ["Arguments:",
      "  <FILES>...  Markdown files, compiled in order into a shared graph", [],
      "Options:",
      "      --no-color    Disable colored error output",
      "  -k, --keep-going  Skip blocks that fail to compile instead of stopping at the first one",
      "  -v, --verbose     Log compiler progress (same as RUST_LOG=debug)",
      "      --dump        Print the whole graph",
      "      --check       Only report errors (exit 0 if every block compiles)",
      "      --raws        List each raw source key with the ids it produced",
      "  -h, --help        Print help"]

/-- The page of the command to run fixtures. -/
def testPage : Page where
  usage := "Usage: quizgraph test [OPTIONS] <PATH>"
  about := "Run .test.md fixtures"
  parts :=
    ["Arguments:",
      "  <PATH>  Path to a .test.md file or directory containing them", [],
      "Options:",
      "      --no-color             Disable colored error output",
      "  -c, --category <CATEGORY>  Run only tests in these categories (subfolder names). Repeatable",
      "  -v, --verbose              Log compiler progress (same as RUST_LOG=debug)",
      "      --list-categories      List available categories and exit",
      "  -h, --help                 Print help"]

/-- The page of the command for help. -/
def helpPage : Page where
  usage := "Usage: quizgraph help [COMMAND]..."
  about := "Print this message or the help of the given subcommand(s)"
  parts :=
    ["Arguments:",
      "  [COMMAND]...  Print help for the subcommand(s)"]

/-- The pages of the commands. -/
def pages : List (Text × Page) :=
  [("compile", compilePage), ("test", testPage), ("help", helpPage)]

/-! ## Levels -/

/-- What is read on a level. -/
structure Level where
  /-- The flags without values. -/
  flags : List Flag
  /-- The requested categories. -/
  categories : List Text
  /-- The other words. -/
  words : List Text
  deriving DecidableEq

/-- Nothing is read. -/
def Level.empty : Level := ⟨[], [], []⟩

/-- Why reading stops before the end. -/
inductive Stop where
  | help
  | version
  | error (message : Text)
  deriving DecidableEq

/-- An argument that has no place where it stands. -/
def unexpected (argument : Text) : Stop :=
  .error ("unexpected argument '" ++ argument ++ "' found")

/-- A flag that was there before. -/
def repeated (flag : Flag) : Stop :=
  .error ("the argument '--" ++ flag.long ++ "' cannot be used multiple times")

/-- A request for a category that does not name one. -/
def missingValue : Stop :=
  .error "a value is required for '--category <CATEGORY>' but none was supplied"

/-- Note a flag without a value. -/
def Level.addFlag (level : Level) (flag : Flag) : Except Stop Level :=
  match flag with
  | .help => .error .help
  | .version => .error .version
  | flag =>
    if flag ∈ level.flags then .error (repeated flag)
    else .ok { level with flags := level.flags ++ [flag] }

/-- Note a category. -/
def Level.addCategory (level : Level) (category : Text) : Level :=
  { level with categories := level.categories ++ [category] }

/-- Note a word, where a level has room for so many. -/
def Level.addWord (room : Option Nat) (level : Level) (word : Text) : Except Stop Level :=
  if room.any (· ≤ level.words.length) then .error (unexpected word)
  else .ok { level with words := level.words ++ [word] }

/-- Whether an argument is a flag: a hyphen and more. -/
def isFlag : Text → Bool
  | '-' :: _ :: _ => true
  | _ => false

/-- How a flag argument ends, behind its flags without values. -/
inductive Ending where
  /-- Nothing follows. -/
  | nothing
  /-- A flag that takes a value, with the value if it is attached. -/
  | category (value : Option Text)
  /-- Something that is no flag here. -/
  | unknown
  deriving DecidableEq

/-- Read the letters behind one hyphen. -/
def letters (known : List Flag) : Text → List Flag × Ending
  | [] => ([], .nothing)
  | c :: rest =>
    match known.find? (·.letter? = some c) with
    | none => ([], .unknown)
    | some flag =>
      if flag.takesValue then
        match rest with
        | [] => ([], .category none)
        | '=' :: value => ([], .category (some value))
        | value => ([], .category (some value))
      else
        let (flags, ending) := letters known rest
        (flag :: flags, ending)

/-- Read the name behind two hyphens, and the value behind an equals sign. -/
def longFlag (known : List Flag) (t : Text) : List Flag × Ending :=
  let name := t.takeWhile (· != '=')
  match known.find? (·.long = name), t.drop name.length with
  | none, _ => ([], .unknown)
  | some flag, [] => if flag.takesValue then ([], .category none) else ([flag], .nothing)
  | some flag, _ :: value =>
    if flag.takesValue then ([], .category (some value)) else ([], .unknown)

/-- Read a flag argument. -/
def flagArgument (known : List Flag) : Text → List Flag × Ending
  | '-' :: '-' :: t => longFlag known t
  | t => letters known t.tail

/-- Read the arguments of a level, in order: the first one that does not fit, or asks for help, is
decisive. A level that `stops` ends at its first word; the rest is then returned. Behind two hyphens
all arguments are words. -/
def readLevel (known : List Flag) (room : Option Nat) (stops : Bool) (level : Level) :
    List Text → Except Stop (Level × List Text)
  | [] => .ok (level, [])
  | argument :: rest =>
    if argument = ['-', '-'] then
      if stops then .error (unexpected argument)
      else (rest.foldlM (Level.addWord room) level).map fun level => (level, [])
    else if isFlag argument then
      let (flags, ending) := flagArgument known argument
      match flags.foldlM Level.addFlag level, ending, rest with
      | .error stop, _, _ => .error stop
      | .ok level, .nothing, rest => readLevel known room stops level rest
      | .ok level, .category (some category), rest =>
        readLevel known room stops (level.addCategory category) rest
      | .ok _, .category none, [] => .error missingValue
      | .ok level, .category none, category :: rest =>
        if isFlag category then .error missingValue
        else readLevel known room stops (level.addCategory category) rest
      | .ok _, .unknown, _ => .error (unexpected argument)
    else
      match level.addWord room argument with
      | .error stop => .error stop
      | .ok level => if stops then .ok (level, rest) else readLevel known room stops level rest

/-! ## Commands -/

/-- What the arguments come to when reading stops on the level of a page. -/
def Stop.reading (page : Page) : Stop → Reading
  | help => .answered page.help
  | version => .answered [Arguments.version]
  | error message => .rejected 2 (page.error message)

/-- A word is missing on the level of a page. -/
def missing (page : Page) (word : Text) : Reading :=
  .rejected 2 (page.error ("the following required arguments were not provided: " ++ word))

/-- A word names no command. -/
def unrecognized (page : Page) (word : Text) : Reading :=
  .rejected 2 (page.error ("unrecognized subcommand '" ++ word ++ "'"))

/-- Carry out a command with the flags of the program that are given on either level. -/
def runWith (program level : Level) (command : Command) : Reading :=
  .run
    { command
      noColor := .noColor ∈ program.flags ++ level.flags
      verbose := .verbose ∈ program.flags ++ level.flags }

/-- The command to compile, from what is read behind its name. -/
def readCompile (program level : Level) : Reading :=
  if level.words.isEmpty then missing compilePage "<FILES>..."
  else runWith program level (.compile
    { files := level.words
      keepGoing := .keepGoing ∈ level.flags
      dump := .dump ∈ level.flags
      check := .check ∈ level.flags
      raws := .raws ∈ level.flags })

/-- The command to run fixtures, from what is read behind its name. -/
def readTest (program level : Level) : Reading :=
  match level.words with
  | [path] => runWith program level (.test
      { path
        categories := level.categories
        listCategories := .listCategories ∈ level.flags })
  | _ => missing testPage "<PATH>"

/-- The command for help, from the arguments behind its name. -/
def readHelp : List Text → Reading
  | [] => .answered programPage.help
  | [name] =>
    match pages.find? (·.1 = name) with
    | some (_, page) => .answered page.help
    | none => unrecognized programPage name
  | _ :: name :: _ => unrecognized helpPage name

/-- Read the command that a name and the arguments behind it make. -/
def readCommand (program : Level) (name : Text) (arguments : List Text) : Reading :=
  if name = "compile".toList then
    match readLevel compileFlags none false .empty arguments with
    | .error stop => stop.reading compilePage
    | .ok (level, _) => readCompile program level
  else if name = "test".toList then
    match readLevel testFlags (some 1) false .empty arguments with
    | .error stop => stop.reading testPage
    | .ok (level, _) => readTest program level
  else if name = "help".toList then readHelp arguments
  else unrecognized programPage name

/-- Read the arguments of the program. Without a command its page is what is wrong. -/
def read (arguments : List Text) : Reading :=
  match readLevel programFlags (some 1) true .empty arguments with
  | .error stop => stop.reading programPage
  | .ok (program, rest) =>
    match program.words with
    | [] => .rejected 2 programPage.help
    | name :: _ => readCommand program name rest

end StudyGraph.Arguments
