import StudyGraph.Readers.Markdown.Container
import StudyGraph.Readers.Markdown.Definition

/-!
# Headings of a Markdown text

`headingStarts` lists the bytes at which the newline-delimited lines begin on which a heading
starts. Rows are read one after the other by `State.read`, with a `State` that says which containers
are open, which block the next row may continue, and what the last blank row means for lists. Rows
that belong to a code block or to a block of HTML end at newlines alone, so further rows on the same
line belong to the block too.
-/

namespace StudyGraph.Markdown

/-- The block that the next row may continue. -/
inductive Leaf where
  | none
  /-- A paragraph by its rows, last one first. -/
  | paragraph (lines : List Line)
  /-- A code block between fences, with the character and the size of the fence and its
  indentation. -/
  | fenced (fence : Char) (size indent : Nat)
  /-- An indented code block. -/
  | indented
  /-- A block of HTML that ends with the line on which `closing` stands, and whether it stood
  there. -/
  | htmlUntil (closing : Text) (closed : Bool)
  /-- A block of HTML that ends before the next blank row. -/
  | html

/-- The row of a paragraph whose text starts at a place behind its containers. -/
def Row.line (row : Row) (c : Cursor) : Line :=
  let text := c.rest.dropWhile fun d => d == ' ' || d == '\t'
  ⟨text, row.text.length - text.length, row.ending, row.origin⟩

/-- The line of the heading that an underline makes of the rows of a paragraph, last one first.
Definitions are no heading. -/
def heading? (lines : List Line) : Option Nat :=
  (withoutDefinitions lines.reverse).head?.map Line.origin

/-- What the rows read so far mean for the next one. -/
structure State where
  /-- The open containers, innermost first. -/
  containers : List Container
  /-- The block that the next row may continue. -/
  leaf : Leaf
  /-- The last row was blank. -/
  afterBlank : Bool
  /-- The innermost item has begun with a blank row. -/
  freshItem : Bool

namespace State

/-- Nothing is open. -/
def start : State := ⟨[], .none, false, false⟩

/-! ## Lists -/

/-- Close the innermost container. With a list that is not loose, the item it began is settled. -/
def close (s : State) : State :=
  { s with
    containers := s.containers.tail
    freshItem := s.freshItem && s.containers.head?.all fun c =>
      match c with
      | .list _ loose => loose
      | _ => true }

/-- Close containers until `n` are left. -/
def closeTo (n : Nat) (s : State) : State :=
  Nat.repeat close (s.containers.length - n) s

/-- Close the item that began with a blank row, when another blank row has followed. -/
def closeFreshItem (s : State) : State :=
  let s :=
    match s.freshItem && s.afterBlank, s.containers with
    | true, .item _ :: _ => s.close
    | _, _ => s
  { s with freshItem := false }

/-- Make the list of the innermost item loose. -/
def loosen : List Container → List Container
  | c :: .list mark _ :: outer => c :: .list mark true :: outer
  | containers => containers

/-- Close a list that the coming block does not go on with. A blank row before a block makes the
list around it loose. -/
def closeList (s : State) : State :=
  let s := s.closeFreshItem
  let s :=
    match s.containers with
    | .list _ _ :: _ => s.close
    | _ => s
  if s.afterBlank then { s with containers := loosen s.containers, afterBlank := false } else s

/-- Go on with the list whose items have this mark, or open one. -/
def openList (mark : Char) (s : State) : State :=
  let s := s.closeFreshItem
  match s.containers with
  | .list mark' loose :: outer =>
    if mark' = mark then
      { s with containers := .list mark' (loose || s.afterBlank) :: outer, afterBlank := false }
    else
      let s := s.closeList
      { s with containers := .list mark false :: s.containers, afterBlank := false }
  | [] => { s with containers := [.list mark false], afterBlank := false }
  | _ =>
    let s := s.closeList
    { s with containers := .list mark false :: s.containers, afterBlank := false }

/-! ## Opening blocks -/

/-- Open the containers that a row opens. The result has the place behind their marks, unless the
row ends with the mark of an item. -/
def openContainers (s : State) (c : Cursor) : State × Option Cursor :=
  if 4 ≤ (c.indentation 4).1 then (s, some c)
  else
    match hi : (c.indentation 4).2.item? (c.indentation 4).1 with
    | some item =>
      let s := s.openList item.mark
      let s := { s with containers := .item item.indent :: s.containers }
      if isBlankRow item.content.rest then ({ s with freshItem := true }, none)
      else
        have : item.content.rest.length < c.rest.length :=
          Nat.lt_of_lt_of_le (Cursor.length_lt_of_item? hi) (Cursor.length_indentation_le 4 c)
        openContainers s item.content
    | none =>
      match hq : (c.indentation 4).2.quote? with
      | some inner =>
        let s := s.closeList
        have : inner.rest.length < c.rest.length :=
          Nat.lt_of_lt_of_le (Cursor.length_lt_of_quote? hq) (Cursor.length_indentation_le 4 c)
        openContainers { s with containers := .quote :: s.containers } inner
      | none => (s, some c)
  termination_by c.rest.length

/-- Note a blank row. An item that began with one takes no content by indentation. -/
def blank (s : State) : State :=
  match s.containers with
  | .quote :: _ => s
  | .item indent :: outer =>
    { s with
      containers := .item (if s.freshItem then 0 else indent) :: outer
      afterBlank := true }
  | _ => { s with afterBlank := true }

/-- The block of HTML that opens on a row, if one does. -/
def htmlLeaf? : Text → Option Leaf
  | '<' :: t =>
    match Html.closing? t with
    | some closing => some (.htmlUntil closing (Text.contains closing ('<' :: t)))
    | none => if Html.opensElement t || Html.isLoneTag t then some .html else none
  | _ => none

/-- Open the block whose content starts at a place on a row, behind `indent` columns: the state
behind the row, and the line of a heading. -/
def openLeaf (s : State) (indent : Nat) (c : Cursor) (row : Row) (below : List Row) :
    State × Option Nat :=
  match htmlLeaf? c.rest with
  | some leaf => ({ s with leaf }, none)
  | none =>
    if isBreak c.rest then (s, none)
    else if isHeading c.rest then (s, some row.origin)
    else
      match fence? c.rest row.ending below with
      | some (mark, size) => ({ s with leaf := .fenced mark size indent }, none)
      | none => ({ s with leaf := .paragraph [row.line c] }, none)

/-- Read a row on which a block starts. -/
def openBlock (s : State) (row : Row) (below : List Row) : State × Option Nat :=
  let s := { s with leaf := .none }
  let (n, c) := descend s.containers.reverse (.ofText row.text)
  match openContainers (s.closeTo n) c with
  | (s, none) => (s, none)
  | (s, some c) =>
    if isBlankRow c.rest then (s.blank, none)
    else
      let s := s.closeList
      let (indent, c) := c.indentation 4
      if indent = 4 then ({ s with leaf := .indented, afterBlank := false }, none)
      else s.openLeaf indent c row below

/-! ## Reading rows -/

/-- Read a row after the rows of a paragraph. An underline makes it a heading. -/
def readParagraph (s : State) (lines : List Line) (row : Row) (below : List Row) :
    State × Option Nat :=
  let (n, c) := descend s.containers.reverse (.ofText row.text)
  let inside := n = s.containers.length
  let (columns, c) := c.indentation 4
  let underlined := if columns < 4 && inside && isUnderline c.rest then heading? lines else none
  if underlined.isSome then ({ s with leaf := .none }, underlined)
  else if columns < 4 && interrupts inside c.rest row.ending below then
    s.openBlock row below
  else if c.rest.all fun d => d == ' ' || d == '\t' then s.openBlock row below
  else ({ s with leaf := .paragraph (row.line c :: lines) }, none)

/-- Read a row. -/
def read (s : State) (row : Row) (below : List Row) : State × Option Nat :=
  match s.leaf with
  | .none => s.openBlock row below
  | .paragraph lines => s.readParagraph lines row below
  | .fenced fence size indent =>
    if !row.opens then (s, none)
    else
      let (n, c) := descend s.containers.reverse (.ofText row.text)
      if n < s.containers.length then s.openBlock row below
      else
        let (columns, c) := (c.indentation indent).2.indentation (4 - indent)
        if columns < 4 - indent && closesFence fence size c.rest then
          ({ s with leaf := .none }, none)
        else (s, none)
  | .indented =>
    if !row.opens then (s, none)
    else
      let (n, c) := descend s.containers.reverse (.ofText row.text)
      let (columns, c) := c.indentation 4
      if n < s.containers.length || (columns < 4 && !c.atEnd) then s.openBlock row below
      else ({ s with afterBlank := isBlankRow c.rest }, none)
  | .htmlUntil closing closed =>
    if !row.opens then
      ({ s with leaf := .htmlUntil closing (closed || Text.contains closing row.text) }, none)
    else
      let (n, c) := descend s.containers.reverse (.ofText row.text)
      if n < s.containers.length || closed then s.openBlock row below
      else ({ s with leaf := .htmlUntil closing (Text.contains closing c.rest) }, none)
  | .html =>
    if !row.opens then (s, none)
    else
      let (n, c) := descend s.containers.reverse (.ofText row.text)
      if n < s.containers.length || isBlankRow c.rest then s.openBlock row below
      else (s, none)

end State

/-- The lines of the headings on the rows. -/
def headingsFrom (s : State) : List Row → List Nat
  | [] => []
  | row :: below =>
    let (s, heading) := s.read row below
    heading.toList ++ headingsFrom s below

/-- The bytes at which the newline-delimited lines begin on which a heading starts. -/
def headingStarts (source : Text) : List Nat :=
  headingsFrom .start (rows source)

end StudyGraph.Markdown
