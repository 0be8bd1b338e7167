import StudyGraph.Terminal.Width
import StudyGraph.Session

/-!
# How diagnostics look

A diagnostic is shown with its message and, for each of its labels, where that is and the line that
it spans, with carets below. The carets take the columns that the characters take, with tabs up to
the next tab stop; a part that reaches behind the shown line has one caret there.
-/

namespace StudyGraph.Diagnostic

/-- The columns between tab stops. -/
def tabWidth : Nat := 4

/-- The columns that a character takes behind `column` others. -/
def widthAt (column : Nat) (c : Char) : Nat :=
  if c = '\t' then tabWidth - column % tabWidth else Text.charWidth c

/-- The line as it is shown, with blanks for tabs, behind `column` columns. -/
def expand (column : Nat) : Text → Text
  | [] => []
  | c :: t =>
    let width := widthAt column c
    (if c = '\t' then List.replicate width ' ' else [c]) ++ expand (column + width) t

/-- The columns of a text behind `column` others. -/
def columns (column : Nat) : Text → Nat
  | [] => 0
  | c :: t => widthAt column c + columns (column + widthAt column c) t

/-- The line without line ends and NUL characters at its end. -/
def trimLine (t : Text) : Text :=
  (t.reverse.dropWhile fun c => c == '\n' || c == '\r' || c == '\x00').reverse

/-- The carets under a whole line: as many as the shown line has columns, and one more if the line
reaches behind it. -/
def carets (line : Text) : Text :=
  let shown := trimLine line
  List.replicate (columns 0 shown + if shown.length < line.length then 1 else 0) '^'

/-- The line of a source that starts at a byte, with its number. Lines are counted from one. -/
def numberedLine? (source : Text) (start : Nat) : Option (Line × Nat) :=
  ((Line.ofSource source).zipIdx 1).find? fun (line, _) => line.start = start

/-- The lines that show the place of a label, which spans a line of a source. -/
def renderLabel (sources : List Source) (label : Label) : List Text :=
  let shown := do
    let source ← sources[label.file]?
    let (line, n) ← numberedLine? source.text label.start
    let number := Text.ofNat n
    let margin := List.replicate number.length ' '
    some
      [margin ++ " ┌─ " ++ source.path ++ ':' :: number ++ ":1",
        margin ++ " │",
        number ++ " │ " ++ expand 0 (trimLine line.text),
        margin ++ " │ " ++ carets line.text]
  shown.getD []

/-- The lines that show a diagnostic about sources. -/
def render (sources : List Source) (diagnostic : Diagnostic) : List Text :=
  ("error: " ++ diagnostic.message) :: diagnostic.labels.flatMap (renderLabel sources) ++ [[]]

end StudyGraph.Diagnostic
