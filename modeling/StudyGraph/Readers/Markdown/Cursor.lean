import StudyGraph.Readers.Markdown.Row

/-!
# Columns

Indentation counts columns, and a tab reaches to the next tab stop, four columns apart. A `Cursor`
reads a row from the left and may stop in the middle of a tab; it then owes the rest of the tab to
whoever reads on.
-/

namespace StudyGraph.Markdown

/-- A place on a row, in columns. -/
structure Cursor where
  /-- What is left of the row. -/
  rest : Text
  /-- The characters read since the last tab. -/
  column : Nat
  /-- The columns of a tab that is read in part. -/
  owed : Nat
  deriving Inhabited

namespace Cursor

/-- The start of a row. -/
def ofText (t : Text) : Cursor :=
  ⟨t, 0, 0⟩

/-- Whether the row ends here. -/
def atEnd (c : Cursor) : Bool :=
  c.rest.isEmpty

/-- The same place, with other text in front and one more character read. -/
def pass (c : Cursor) (n : Nat) (rest : Text) : Cursor :=
  { c with rest, column := c.column + n }

/-- Skip up to `n` columns of spaces and tabs: the columns that are missing, and the place
reached. -/
def skip : (n : Nat) → (rest : Text) → (column : Nat) → Nat × Cursor
  | n + 1, ' ' :: rest, column => skip n rest (column + 1)
  | n + 1, '\t' :: rest, column =>
    let width := 4 - column % 4
    if width ≤ n + 1 then skip (n + 1 - width) rest 0 else (0, ⟨rest, 0, width - (n + 1)⟩)
  | n, rest, column => (n, ⟨rest, column, 0⟩)
  termination_by structural _ rest => rest

/-- Read up to `n` columns of indentation: how many there were, and the place behind them. -/
def indentation (n : Nat) (c : Cursor) : Nat × Cursor :=
  if n ≤ c.owed then (n, { c with owed := c.owed - n })
  else
    let (missing, c') := skip (n - c.owed) c.rest c.column
    (n - missing, c')

theorem length_skip_le (n : Nat) (rest : Text) (column : Nat) :
    (skip n rest column).2.rest.length ≤ rest.length := by
  fun_induction skip n rest column with
  | case1 n rest column ih => simp only [List.length_cons]; omega
  | case2 n rest column width h ih => simp only [List.length_cons]; omega
  | case3 n rest column width h => simp
  | case4 => simp

theorem length_indentation_le (n : Nat) (c : Cursor) :
    (c.indentation n).2.rest.length ≤ c.rest.length := by
  unfold indentation
  split
  · simp
  · exact length_skip_le _ _ _

end Cursor

end StudyGraph.Markdown
