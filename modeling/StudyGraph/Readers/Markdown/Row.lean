import StudyGraph.Text

/-!
# Rows of a Markdown text

Markdown ends a line at a newline, at a carriage return, or at both together. A `Row` is what stands
between two such ends. Offsets of headings refer to the coarser lines that end at newlines alone, so
a row also remembers where its newline-delimited line begins, and whether it is the first row on it.
-/

namespace StudyGraph.Markdown

/-- How a row ends. -/
inductive Ending where
  | newline
  | returnNewline
  | return
  | endOfText
  deriving DecidableEq, Inhabited

/-- The number of characters of an ending. -/
def Ending.size : Ending → Nat
  | newline | .return => 1
  | returnNewline => 2
  | endOfText => 0

/-- A row of the text. -/
structure Row where
  /-- What stands on the row. -/
  text : Text
  /-- How the row ends. -/
  ending : Ending
  /-- The byte at which its newline-delimited line begins. -/
  origin : Nat
  /-- Whether it is the first row of that line. -/
  opens : Bool
  deriving Inhabited

/-- The rows of a text that begins at byte `offset`, on a line that begins at byte `origin`, with
the characters of `line` already read, last one first. Nothing behind the last ending is no row. -/
def rowsFrom (origin : Nat) (opens : Bool) (offset : Nat) (line : Text) : Text → List Row
  | [] => if line.isEmpty then [] else [⟨line.reverse, .endOfText, origin, opens⟩]
  | '\n' :: t =>
    ⟨line.reverse, .newline, origin, opens⟩ :: rowsFrom (offset + 1) true (offset + 1) [] t
  | '\r' :: '\n' :: t =>
    ⟨line.reverse, .returnNewline, origin, opens⟩ :: rowsFrom (offset + 2) true (offset + 2) [] t
  | '\r' :: t =>
    ⟨line.reverse, .return, origin, opens⟩ :: rowsFrom origin false (offset + 1) [] t
  | c :: t => rowsFrom origin opens (offset + c.utf8Size) (c :: line) t

/-- The rows of a text. -/
def rows (t : Text) : List Row :=
  rowsFrom 0 true 0 [] t

/-- Whether a character stands on the further rows of a newline-delimited line, behind a row with
this ending. -/
def occursBehind (c : Char) : Ending → List Row → Bool
  | .return, row :: below => row.text.contains c || occursBehind c row.ending below
  | _, _ => false

/-! ## Characters -/

/-- Spaces that do not end a row: the space, the tab, and the vertical and form feeds. -/
def isSpace (c : Char) : Bool :=
  c == ' ' || c == '\t' || c == '\x0b' || c == '\x0c'

/-- Whether nothing but spaces is left. -/
def isBlankRow (t : Text) : Bool :=
  t.all isSpace

/-- The ASCII punctuation characters. -/
def isPunctuation (c : Char) : Bool :=
  let n := c.toNat
  (33 ≤ n && n ≤ 47) || (58 ≤ n && n ≤ 64) || (91 ≤ n && n ≤ 96) || (123 ≤ n && n ≤ 126)

end StudyGraph.Markdown
