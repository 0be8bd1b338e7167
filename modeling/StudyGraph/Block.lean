import StudyGraph.Text.Blank

/-!
# Lines and blocks

A source is read by its newline-delimited lines, each without a carriage return at its end and with
the span of bytes that it takes in the source. A block is a heading line with all lines up to the
next one. The lines before the first heading belong to no block. A heading line is one that a
Markdown reader takes for the start of a heading, and that starts with `#` characters, white space
and something more. Which lines the reader takes for that is not decided here: `Block.split` takes
them from a list, and `Block.ofSource` from a reader.
-/

namespace StudyGraph

/-- A line of a source. -/
structure Line where
  /-- The line without its ending. -/
  text : Text
  /-- The byte of the source at which it starts. -/
  start : Nat
  deriving DecidableEq, Inhabited

namespace Line

/-- The byte of the source behind the line. -/
def stop (line : Line) : Nat :=
  line.start + line.text.byteSize

/-- The lines with the given texts, from byte `start` on, with one byte between neighbours. -/
def layOut (start : Nat) : List Text → List Line
  | [] => []
  | text :: texts => ⟨text, start⟩ :: layOut (start + text.byteSize + 1) texts

@[simp] theorem map_text_layOut (start : Nat) (texts : List Text) :
    (layOut start texts).map text = texts := by
  induction texts generalizing start with
  | nil => rfl
  | cons t ts ih => simp [layOut, ih]

/-- The line without a carriage return at its end. -/
def withoutReturn (line : Line) : Line :=
  if line.text.getLast? = some '\r' then { line with text := line.text.dropLast } else line

/-- The newline-delimited lines of a source. -/
def ofSource (source : Text) : List Line :=
  (layOut 0 (Text.splitOn '\n' source)).map withoutReturn

/-- Whether the line starts with `#` characters, white space and something more. -/
def isTitled (line : Line) : Bool :=
  match line.text with
  | '#' :: t =>
    match t.dropWhile (· == '#') with
    | c :: _ :: _ => Text.isBlank c
    | _ => false
  | _ => false

end Line

/-- A heading line with the lines up to the next one. -/
structure Block where
  /-- The lines, the heading first. -/
  lines : List Line
  deriving DecidableEq, Inhabited

namespace Block

/-- The block of the given lines, as if they were joined by newlines. -/
def ofLines (texts : List Text) : Block :=
  ⟨Line.layOut 0 texts⟩

/-- The heading line. -/
def header? (block : Block) : Option Line :=
  block.lines.head?

/-- The lines behind the heading line. -/
def body (block : Block) : List Line :=
  block.lines.tail

/-- Cut lines into blocks: the lines before the first one that opens a block, and the blocks. -/
def cut (opens : Line → Bool) : List Line → List Line × List Block
  | [] => ([], [])
  | line :: lines =>
    let (before, blocks) := cut opens lines
    if opens line then ([], ⟨line :: before⟩ :: blocks) else (line :: before, blocks)

/-- Whether a block opens on a line, when headings start on the lines at the given bytes. -/
def opensAt (headings : List Nat) (line : Line) : Bool :=
  headings.contains line.start && line.isTitled

/-- The blocks of a source, when headings start on the lines at the given bytes. -/
def split (headings : List Nat) (source : Text) : List Block :=
  (cut (opensAt headings) (Line.ofSource source)).2

/-- The blocks of a source, for a reader that lists the bytes at which the lines begin on which a
heading starts. -/
def ofSource (headings : Text → List Nat) (source : Text) : List Block :=
  split (headings source) source

end Block

end StudyGraph
