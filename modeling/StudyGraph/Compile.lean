import StudyGraph.Plan

/-!
# Compiling

Blocks are compiled into a graph one after the other, so a block may merge into quizzes of earlier
ones. A block that fails leaves the graph as it was. `compileAll` goes on past failures and collects
them, `compileUntil` stops at the first, with all blocks before it in the graph. Sources are cut
into blocks with a reader of headings.
-/

namespace StudyGraph

namespace Graph

/-- Compile a block of a file into a graph. -/
def compileBlock (file : Nat) (g : Graph) (block : Block) : Except Failure Graph :=
  match block.stage g with
  | .ok staged => .ok (g.merge staged)
  | .error fault => .error { fault with file }

/-- Compile blocks and go on past failures: the graph and the failures. -/
def compileAll (file : Nat) (g : Graph) : List Block → Graph × List Failure
  | [] => (g, [])
  | block :: blocks =>
    match g.compileBlock file block with
    | .ok g => compileAll file g blocks
    | .error failure =>
      let (g, failures) := compileAll file g blocks
      (g, failure :: failures)

/-- Compile blocks up to the first failure: the graph and the failure. -/
def compileUntil (file : Nat) (g : Graph) : List Block → Graph × Option Failure
  | [] => (g, none)
  | block :: blocks =>
    match g.compileBlock file block with
    | .ok g => compileUntil file g blocks
    | .error failure => (g, some failure)

section

variable (headings : Text → List Nat)

/-- Compile sources past all failures, as the files from number `file` on. -/
def compileAllSources (file : Nat) (g : Graph) : List Text → Graph × List Failure
  | [] => (g, [])
  | source :: sources =>
    let (g, failures) := g.compileAll file (Block.ofSource headings source)
    let (g, more) := compileAllSources (file + 1) g sources
    (g, failures ++ more)

/-- Compile sources up to the first failure, as the files from number `file` on. -/
def compileSourcesUntil (file : Nat) (g : Graph) : List Text → Graph × Option Failure
  | [] => (g, none)
  | source :: sources =>
    match g.compileUntil file (Block.ofSource headings source) with
    | (g, none) => compileSourcesUntil (file + 1) g sources
    | (g, some failure) => (g, some failure)

end

end Graph

/-- The graph of a text, or the first failure in it. -/
def compileText (headings : Text → List Nat) (source : Text) : Except Failure Graph :=
  match Graph.compileUntil 0 .empty (Block.ofSource headings source) with
  | (g, none) => .ok g
  | (_, some failure) => .error failure

end StudyGraph
