import StudyGraph.Readers.Markdown.Block

/-!
# Containers

Lists, list items and block quotes hold other blocks. A row continues the containers that are open
as far as it has their marks or their indentation: `descend` goes into them one by one, from the
outermost on, and stops at the first that the row does not continue.
-/

namespace StudyGraph.Markdown

/-- A block that holds other blocks. -/
inductive Container where
  /-- A list by the character of its marks. A list is loose when blank rows separate its items. -/
  | list (mark : Char) (loose : Bool)
  /-- An item by the indentation of its content. -/
  | item (indent : Nat)
  /-- A block quote. -/
  | quote
  deriving DecidableEq

/-- How many of the containers, outermost first, the row continues, and where their content goes
on. -/
def descend : List Container → Cursor → Nat × Cursor
  | [], c => (0, c)
  | .list _ _ :: inner, c =>
    let (n, c) := descend inner c
    (n + 1, c)
  | .item indent :: inner, c =>
    let (columns, content) := c.indentation indent
    if columns = indent || content.atEnd then
      let (n, c) := descend inner content
      (n + 1, c)
    else (0, c)
  | .quote :: inner, c =>
    match (c.indentation 3).2.quote? with
    | some content =>
      let (n, c) := descend inner content
      (n + 1, c)
    | none => (0, c)

end StudyGraph.Markdown
