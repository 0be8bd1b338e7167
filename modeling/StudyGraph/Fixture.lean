import StudyGraph.Compile
import StudyGraph.Text.Search

/-!
# Fixtures

A fixture is a text to be compiled with expectations in front of it: settings between two lines of
hyphens, and then the text. `Fixture.split` takes the two apart, `Fixture.read` has the settings
read by a reader of its own for them, and `Expectations.check` compares the outcome of compiling
with what is expected. Expectations that are left out are not checked.
-/

namespace StudyGraph

/-- What a fixture expects of its text. -/
structure Expectations where
  /-- What the fixture is about. -/
  description : Option Text := none
  /-- The number of nodes. -/
  nodes : Option Nat := none
  /-- The number of cards. -/
  cards : Option Nat := none
  /-- The number of clozes. -/
  clozes : Option Nat := none
  /-- The number of matchings. -/
  matchings : Option Nat := none
  /-- The number of nodes with children. -/
  edgeParents : Option Nat := none
  /-- The number of edges. -/
  edges : Option Nat := none
  /-- A part of the message of the failure. -/
  error : Option Text := none
  deriving DecidableEq

namespace Expectations

/-! ## Checking -/

/-- How an outcome differs from what is expected. -/
inductive Mismatch where
  /-- The failure has another message than the expected one. -/
  | otherFailure (expected message : Text)
  /-- The text compiles, though a failure is expected. -/
  | noFailure (expected : Text)
  /-- The text fails, though no failure is expected. -/
  | failure (message : Text)
  /-- Counts differ: each with its name, and with what is expected and what is found. -/
  | counts (differences : List (Text × Nat × Nat))
  deriving DecidableEq

/-- The wording of a mismatch. -/
def Mismatch.message : Mismatch → Text
  | otherFailure expected message =>
    "expected error containing \"" ++ expected ++ "\", got: " ++ message
  | noFailure expected =>
    "expected error containing \"" ++ expected ++ "\", but compilation succeeded"
  | failure message => "unexpected compile error: " ++ message
  | counts differences => Text.join ['\n'] (differences.map fun (name, expected, actual) =>
      name ++ ": expected " ++ Text.ofNat expected ++ ", got " ++ Text.ofNat actual)

/-- The counts of a graph, with their names and what is expected of them. -/
def counts (e : Expectations) (g : Graph) : List (Text × Option Nat × Nat) :=
  [("nodes", e.nodes, g.size), ("cards", e.cards, g.countKind .card),
    ("clozes", e.clozes, g.countKind .cloze), ("matches", e.matchings, g.countKind .matching),
    ("edge parents", e.edgeParents, g.parentCount), ("edges", e.edges, g.edgeCount)]

/-- The counts that are not as expected. -/
def differences (e : Expectations) (g : Graph) : List (Text × Nat × Nat) :=
  (e.counts g).filterMap fun (name, expected, actual) =>
    match expected with
    | some n => if n = actual then none else some (name, n, actual)
    | none => none

/-- How an outcome differs from the expectations, if it does. -/
def check (e : Expectations) (outcome : Except Failure Graph) : Option Mismatch :=
  match e.error, outcome with
  | some expected, .error failure =>
    if Text.contains expected failure.message then none
    else some (.otherFailure expected failure.message)
  | some expected, .ok _ => some (.noFailure expected)
  | none, .error failure => some (.failure failure.message)
  | none, .ok g => if (e.differences g).isEmpty then none else some (.counts (e.differences g))

end Expectations

/-- Expectations with the text they are about. -/
structure Fixture where
  /-- What is expected. -/
  expectations : Expectations
  /-- The text to be compiled. -/
  source : Text
  deriving DecidableEq

namespace Fixture

/-- Why a file is no fixture. -/
inductive Error where
  /-- The file does not start with hyphens. -/
  | noOpening
  /-- No later line starts with hyphens. -/
  | noClosing
  /-- The reader of the settings says what is wrong with them. -/
  | settings (message : Text)
  deriving DecidableEq

/-- The wording of an error. -/
def Error.message : Error → Text
  | noOpening => "missing opening --- frontmatter delimiter"
  | noClosing => "missing closing --- frontmatter delimiter"
  | settings message => "TOML parse error: " ++ message

/-- The byte-order mark. -/
def mark : Char := '\ufeff'

/-- The text without a newline at its start, with or without a carriage return before it. -/
def dropNewline : Text → Text
  | '\n' :: t => t
  | '\r' :: '\n' :: t => t
  | t => t

/-- The text without carriage returns at its end. -/
def dropReturns (t : Text) : Text :=
  (t.reverse.dropWhile (· == '\r')).reverse

/-- The settings and the text of a file. -/
def split (content : Text) : Except Error (Text × Text) :=
  match Text.afterPrefix? "---" (content.dropWhile (· == mark)) with
  | none => .error .noOpening
  | some t =>
    match Text.cutAt? "\n---" (dropNewline t) with
    | none => .error .noClosing
    | some (settings, rest) => .ok (dropReturns settings, dropNewline rest)

/-- Read a fixture, with a reader of settings. -/
def read (expectationsOf : Text → Except Text Expectations) (content : Text) :
    Except Error Fixture := do
  let (settings, source) ← split content
  let expectations ← (expectationsOf settings).mapError .settings
  return { expectations, source }

/-- How compiling the text differs from what is expected, if it does. -/
def check (headings : Text → List Nat) (fixture : Fixture) : Option Expectations.Mismatch :=
  fixture.expectations.check (compileText headings fixture.source)

end Fixture

end StudyGraph
