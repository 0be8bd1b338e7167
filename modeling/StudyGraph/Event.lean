import StudyGraph.Compile

/-!
# Events

What the program tells a log about its progress. An `Event` is something that happened; it has a
level, a target, which is the part of the program it belongs to, and a text. Which events are
written, and how, is left to the log.

`Block.events` tells what happens while a block is compiled. Up to the first fault these are the
bullets in the order of the plan, with the links of every group.
-/

namespace StudyGraph

/-! ## Events -/

/-- Something that happened. -/
inductive Event where
  /-- A file is about to be compiled. -/
  | file (path : Text)
  /-- A block of a file does not compile and is skipped. -/
  | skippedBlock (path : Text) (failure : Failure)
  /-- The blocks of a file are about to be compiled. -/
  | blocks (count file : Nat)
  /-- A block has no annotated header. -/
  | plainBlock (header : Text)
  /-- A fill bullet is read. -/
  | fill (line : Text)
  /-- A vocabulary bullet is read. -/
  | vocabulary (line : Text)
  /-- Two slots of a group are linked. -/
  | linked (parentSlot childSlot : Nat)
  /-- A block is compiled. -/
  | compiled (header : Text) (nodes edges : Nat)
  deriving DecidableEq

/-- The levels of events, from those that matter most. -/
inductive Level where
  | error
  | warn
  | info
  | debug
  | trace
  deriving DecidableEq, Inhabited

namespace Event

/-- The level of an event. -/
def level : Event → Level
  | skippedBlock .. => .warn
  | file _ | blocks .. | compiled .. => .debug
  | plainBlock _ | fill _ | vocabulary _ | linked .. => .trace

/-- The part of the program that an event belongs to. -/
def target : Event → Text
  | file _ | skippedBlock .. => "quizgraph"
  | blocks .. => "quizgraph::compiler"
  | plainBlock _ | fill _ | vocabulary _ | compiled .. => "quizgraph::compiler::block"
  | linked .. => "quizgraph::matrix::link"

/-- The text of an event. -/
def text : Event → Text
  | file path => "compiling " ++ path
  | skippedBlock path failure => "skipping block in " ++ path ++ ": " ++ failure.message
  | blocks count number =>
    "compiling " ++ Text.ofNat count ++ " block(s) from file " ++ Text.ofNat number
  | plainBlock header => "skipping block without annotated header: `" ++ header ++ "`"
  | fill line => "fill: " ++ line
  | vocabulary line => "vocabulary: " ++ line
  | linked parent child =>
    "link slot " ++ Text.ofNat parent ++ " -> slot " ++ Text.ofNat child
  | compiled header nodes edges =>
    "compiled `" ++ header ++ "`: " ++ Text.ofNat nodes ++ " node(s), " ++ Text.ofNat edges ++
      " edge(s)"

end Event

/-! ## Events of compiling -/

/-- The events of a step. -/
def Step.events : Step → List Event
  | link policy group _ =>
    if policy.Fits group then
      (policy.links group).map fun l => .linked l.parentSlot l.childSlot
    else []
  | _ => []

/-- The event of reading a bullet. -/
def Bullet.event? (bullet : Bullet) : Option Event :=
  match bullet.kind with
  | .fill => some (.fill bullet.line.text)
  | .vocabulary => some (.vocabulary bullet.line.text)
  | _ => none

/-- The events of parts, up to the first fault. -/
def Part.events : List Part → List Event
  | [] => []
  | part :: parts =>
    (part.bullet.bind Bullet.event?).toList ++
      match part.steps with
      | .error _ => []
      | .ok steps => steps.flatMap Step.events ++ events parts

/-- The events of compiling a block into a graph. -/
def Block.events (g : Graph) (block : Block) : List Event :=
  match block.header?, block.plan? g with
  | none, _ => []
  | some header, none => [.plainBlock header.text]
  | some header, some parts =>
    Part.events parts ++
      match block.stage g with
      | .ok staged => [.compiled header.text staged.size staged.edgeCount]
      | .error _ => []

namespace Graph

/-- The events of compiling blocks past all failures, which are noted for the file at `path`. -/
def eventsOfAll (path : Text) (file : Nat) (g : Graph) : List Block → List Event
  | [] => []
  | block :: blocks =>
    block.events g ++
      match g.compileBlock file block with
      | .ok g => eventsOfAll path file g blocks
      | .error failure => .skippedBlock path failure :: eventsOfAll path file g blocks

/-- The events of compiling blocks up to the first failure. -/
def eventsUntil (file : Nat) (g : Graph) : List Block → List Event
  | [] => []
  | block :: blocks =>
    block.events g ++
      match g.compileBlock file block with
      | .ok g => eventsUntil file g blocks
      | .error _ => []

/-- The events of compiling the blocks of a file up to the first failure. -/
def eventsOfFile (file : Nat) (g : Graph) (blocks : List Block) : List Event :=
  .blocks blocks.length file :: g.eventsUntil file blocks

end Graph

/-- The events of compiling a text. -/
def eventsOfText (headings : Text → List Nat) (source : Text) : List Event :=
  Graph.empty.eventsOfFile 0 (Block.ofSource headings source)

end StudyGraph
