import StudyGraph.CommandLine
import StudyGraph.Dump
import StudyGraph.Event
import StudyGraph.FileTree
import StudyGraph.Fixture
import StudyGraph.Fixture.Category

/-!
# Sessions

A run of the program: what it writes and its exit code, as a function of its arguments, the files
that it sees and the text of the log filter in its environment. Markdown, the settings of fixtures
and arguments are read by `Readers`, about which nothing is decided here. Nor is it decided how
events and diagnostics look, and which events are written: among the `Message`s of a run they stand
as what the program hands on.
-/

namespace StudyGraph

/-- The readers of what is not in a notation of the program's own. -/
structure Readers where
  /-- The bytes at which the newline-delimited lines of a Markdown text begin on which a heading
  starts. -/
  headings : Text → List Nat
  /-- The expectations in the settings of a fixture, or what is wrong with the settings. -/
  settings : Text → Except Text Expectations
  /-- What arguments that name a command ask for. -/
  arguments : List Text → CommandLine.Reading

/-! ## What is written -/

/-- A file that was read. -/
structure Source where
  /-- Its path. -/
  path : Text
  /-- Its text. -/
  text : Text
  deriving DecidableEq

/-- When diagnostics have colours. -/
inductive Coloring where
  | never
  /-- Where the terminal shows them. -/
  | auto
  deriving DecidableEq

/-- A diagnostic that is reported. -/
structure Report where
  /-- When it has colours. -/
  coloring : Coloring
  /-- The files that the labels of the diagnostic count. -/
  sources : List Source
  /-- The diagnostic. -/
  diagnostic : Diagnostic
  deriving DecidableEq

/-- What is written to standard error. -/
inductive Message where
  /-- A line. -/
  | line (text : Text)
  /-- The log is opened: of the events that follow, those are written that the filter wants. -/
  | openLog (filter : Text)
  /-- Something that happened. -/
  | event (event : Event)
  /-- A diagnostic. -/
  | report (report : Report)
  deriving DecidableEq

/-- What a run writes, and its exit code. -/
structure Outcome where
  /-- The exit code. -/
  code : Nat
  /-- The lines on standard output. -/
  output : List Text
  /-- What is written to standard error. -/
  errors : List Message
  deriving DecidableEq

namespace Session

/-- A line below another one. -/
def indent (line : Text) : Text :=
  "  " ++ line

/-! ## Compiling files -/

/-- What compiling files has come to. -/
structure Progress where
  /-- The files that were read. -/
  sources : List Source
  /-- The graph. -/
  graph : Graph
  /-- The failures, in order. -/
  failures : List Failure
  /-- What happened. -/
  events : List Event

/-- Nothing is compiled. -/
def Progress.start : Progress := ⟨[], .empty, [], []⟩

/-- Compile a file that was read. -/
def Progress.add (headings : Text → List Nat) (p : Progress) (keepGoing : Bool) (path text : Text) :
    Progress :=
  let file := p.sources.length
  let blocks := Block.ofSource headings text
  let sources := p.sources ++ [⟨path, text⟩]
  if keepGoing then
    let (graph, failures) := p.graph.compileAll file blocks
    { sources, graph
      failures := p.failures ++ failures
      events := p.events ++ .file path :: p.graph.eventsOfAll path file blocks }
  else
    let (graph, failure) := p.graph.compileUntil file blocks
    { sources, graph
      failures := p.failures ++ failure.toList
      events := p.events ++ .file path :: p.graph.eventsOfFile file blocks }

/-- Compile files, up to the first that cannot be read, and up to the first failure unless failures
are skipped. -/
def compileFiles (headings : Text → List Nat) (files : Files) (keepGoing : Bool) (p : Progress) :
    List Text → Progress × Option (Text × ReadError)
  | [] => (p, none)
  | path :: paths =>
    match files.read path with
    | .error e => (p, some (path, e))
    | .ok text =>
      let p := p.add headings keepGoing path text
      if !keepGoing && !p.failures.isEmpty then (p, none)
      else compileFiles headings files keepGoing p paths

/-- The two lines that sum a graph up. -/
def summary (g : Graph) : List Text :=
  ["nodes: " ++ Text.ofNat g.size ++ " (" ++ Text.ofNat (g.countKind .card) ++ " cards, " ++
      Text.ofNat (g.countKind .cloze) ++ " clozes, " ++ Text.ofNat (g.countKind .matching) ++
      " matches)",
    "edges: " ++ Text.ofNat g.edgeCount ++ " from " ++ Text.ofNat g.parentCount ++ " parent(s)"]

/-- Every raw text on one line, with the identities that it gave below. -/
def rawListing (g : Graph) : List Text :=
  g.raws.entries.flatMap fun (raw, ids) =>
    Text.join " | " (Text.splitOn '\n' raw) :: ids.toList.map indent

/-- The colours that are asked for. -/
def coloringOf (noColor : Bool) : Coloring :=
  if noColor then .never else .auto

/-- The report of a failure in one of the sources. -/
def reportOf (noColor : Bool) (sources : List Source) (failure : Failure) : Report :=
  ⟨coloringOf noColor, sources, failure.diagnostic⟩

/-- Compile files and show the graph. Diagnostics are written when all files are read. -/
def compile (headings : Text → List Nat) (files : Files) (noColor : Bool)
    (options : CompileOptions) : Outcome :=
  match compileFiles headings files options.keepGoing .start options.files with
  | (p, some (path, e)) =>
    { code := 1
      output := []
      errors := p.events.map .event ++
        [.line ("error: cannot read '" ++ path ++ "': " ++ e.message)] }
  | (p, none) =>
    let failed := !p.failures.isEmpty
    let shown :=
      if options.check || (failed && !options.keepGoing) then []
      else if options.dump then [(Dump.ofGraph p.graph).render 0]
      else if options.raws then rawListing p.graph
      else summary p.graph
    let verdict : List Message :=
      if options.check && !failed then
        [.line ("ok: " ++ Text.ofNat options.files.length ++ " file(s) compiled")]
      else []
    let reports : List Message := p.failures.map fun failure =>
      .report (reportOf noColor p.sources failure)
    { code := if failed then 1 else 0
      output := shown
      errors := p.events.map .event ++ reports ++ verdict }

/-! ## Running fixtures -/

/-- The outcome of a fixture. -/
structure Result where
  /-- The path of the fixture. -/
  path : Text
  /-- What the fixture is about. -/
  description : Option Text
  /-- Why the fixture fails, if it does. -/
  reason : Option Text
  /-- What happened while its text was compiled. -/
  events : List Event

/-- The name under which a result is reported. -/
def Result.label (r : Result) : Text :=
  r.description.getD (Text.fileStem r.path)

/-- Run a fixture, up to what can be read of it. -/
def runFixture (readers : Readers) (path : Text) (content : Except ReadError Text) : Result :=
  match content with
  | .error e => ⟨path, none, some ("cannot read file: " ++ e.message), []⟩
  | .ok content =>
    match Fixture.read readers.settings content with
    | .error e => ⟨path, none, some ("frontmatter error: " ++ e.message), []⟩
    | .ok fixture =>
      ⟨path, fixture.expectations.description,
        (fixture.check readers.headings).map Expectations.Mismatch.message,
        eventsOfText readers.headings fixture.source⟩

/-- The ending of the names of fixtures. -/
def fixtureEnding : Text := ".test.md"

mutual

/-- The fixtures in a folder, with their categories. Folders are categories whatever their names. -/
def fixturesIn (category path : Text) : List (Text × FileTree) → List (Text × Text)
  | [] => []
  | (name, tree) :: rest =>
    fixturesOf category (Text.joinPath path name) name tree ++ fixturesIn category path rest

/-- The fixtures at an entry of a folder, with their categories. -/
def fixturesOf (category path name : Text) : FileTree → List (Text × Text)
  | .file _ => if fixtureEnding.isSuffixOf name then [(category, path)] else []
  | .folder entries =>
    fixturesIn (if category.isEmpty then name else category ++ '/' :: name) path entries

end

/-- The category of a folder: its path with slashes, also where its name has backslashes. -/
def categoryOf (folder : Text) : Text :=
  folder.map fun c => if c = '\\' then '/' else c

/-- The fixtures below a folder by category, those of one category in the order of their paths. -/
def discover (path : Text) (tree : FileTree) : Categories :=
  let found := (fixturesIn [] path tree.entries).foldl
    (fun (m : Categories) (folder, file) =>
      m.upsert (categoryOf folder) fun known => known.getD [] ++ [file]) .empty
  SortedMap.ofList (found.entries.map fun (category, paths) =>
    (category, paths.mergeSort fun a b => !Text.before Text.pathRank b a))

/-- Text in a colour, unless there are to be none. -/
def paint (noColor : Bool) (code t : Text) : Text :=
  if noColor then t else '\x1b' :: '[' :: code ++ 'm' :: t ++ ['\x1b', '[', '0', 'm']

/-- The verdict on a fixture, below what happened. -/
def resultLines (noColor : Bool) (r : Result) : List Message :=
  let verdict := if r.reason.isNone then paint noColor "32" "PASS" else paint noColor "31" "FAIL"
  r.events.map .event ++ [.line ("  " ++ verdict ++ "  " ++ r.label)]

/-- The results of a category, below its name. -/
def categoryLines (noColor : Bool) (category : Text) (results : List Result) : List Message :=
  [.line [], .line (paint noColor "1" (categoryLabel category))] ++
    results.flatMap (resultLines noColor)

/-- The reason of a failure, below its path. -/
def reasonLines (r : Result) : List Text :=
  [] :: indent ("--- " ++ r.path ++ " ---") :: (Text.lines (r.reason.getD [])).map indent

/-- The line with the verdict about so many passes and failures. -/
def verdictLine (noColor : Bool) (passed failed : Nat) : Text :=
  if failed = 0 then
    "test result: " ++ paint noColor "32" "ok" ++ ". " ++ Text.ofNat passed ++ " passed, 0 failed"
  else
    "test result: " ++ paint noColor "31" "FAILED" ++ ". " ++ Text.ofNat passed ++ " passed, " ++
      Text.ofNat failed ++ " failed (of " ++ Text.ofNat (passed + failed) ++ ")"

/-- The reasons of the failures, and the verdict. -/
def reportLines (noColor : Bool) (results : List Result) : List Message :=
  let failures := results.filter (·.reason.isSome)
  let passed := results.length - failures.length
  let reasons := if failures.isEmpty then [] else [] :: "failures:" :: failures.flatMap reasonLines
  (reasons ++ [[], verdictLine noColor passed failures.length]).map .line

/-- The exit code of a run of fixtures. -/
def exitCode (results : List Result) : Nat :=
  if results.all (·.reason.isNone) then 0 else 1

/-- Run one fixture. -/
def testFile (readers : Readers) (files : Files) (noColor : Bool) (path : Text) : Outcome :=
  let result := runFixture readers path (files.read path)
  { code := exitCode [result]
    output := []
    errors := resultLines noColor result ++ reportLines noColor [result] }

/-- Run the fixtures of the categories that the requests stand for. -/
def testCategories (readers : Readers) (files : Files) (noColor : Bool) (all : Categories)
    (requests : List Text) : Outcome :=
  let selection := all.select requests
  let warnings : List Message := selection.missed.map fun request =>
    .line (all.missedWarning request)
  if selection.selected.isEmpty then
    { code := 1
      output := []
      errors := warnings ++ [.line "no matching categories found"] }
  else
    let results := selection.selected.entries.map fun (category, paths) =>
      (category, paths.map fun path => runFixture readers path (files.read path))
    let flat := results.flatMap Prod.snd
    { code := exitCode flat
      output := []
      errors := warnings ++
        results.flatMap (fun (category, rs) => categoryLines noColor category rs) ++
        reportLines noColor flat }

/-- The line about a place without fixtures. -/
def nothingFound (path : Text) : Text :=
  "no .test.md files found in " ++ path

/-- The categories below a folder. -/
def categoryListing (path : Text) (all : Categories) : List Text :=
  if all.isEmpty then [nothingFound path]
  else "available categories:" :: all.entries.map fun (category, paths) =>
    "  " ++ categoryLabel category ++ " (" ++ Text.ofNat paths.length ++ " tests)"

/-- The fixtures at a path by category. -/
def discoverAt (files : Files) (path : Text) : Categories :=
  match files path with
  | .ok tree => discover path tree
  | .error _ => .empty

/-- Run fixtures, or list their categories. -/
def test (readers : Readers) (files : Files) (noColor : Bool) (options : TestOptions) : Outcome :=
  let path := options.path
  match files.isFile path, options.listCategories with
  | true, true => { code := 0, output := [], errors := [.line "(single file, no categories)"] }
  | true, false => testFile readers files noColor path
  | false, true =>
    { code := 0, output := [], errors := (categoryListing path (discoverAt files path)).map .line }
  | false, false =>
    let all := discoverAt files path
    if all.isEmpty then { code := 1, output := [], errors := [.line (nothingFound path)] }
    else testCategories readers files noColor all options.categories

/-! ## The program -/

/-- The filter of the log: that of the environment, or else one for warnings, or for progress too
if the program is verbose. -/
def logFilter (environment : Option Text) (verbose : Bool) : Text :=
  environment.getD (if verbose then "debug" else "warn")

/-- Carry out a command. -/
def runCommand (readers : Readers) (files : Files) (invocation : Invocation) : Outcome :=
  match invocation.command with
  | .compile options => compile readers.headings files invocation.noColor options
  | .test options => test readers files invocation.noColor options

/-- Run the program. What the reader of the arguments writes by itself ends the run. -/
def run (readers : Readers) (files : Files) (environment : Option Text) (arguments : List Text) :
    Outcome :=
  match readers.arguments (CommandLine.insertCompile arguments) with
  | .answered output => { code := 0, output, errors := [] }
  | .rejected code errors => { code, output := [], errors := errors.map .line }
  | .run invocation =>
    let outcome := runCommand readers files invocation
    { outcome with errors := .openLog (logFilter environment invocation.verbose) :: outcome.errors }

end Session

end StudyGraph
