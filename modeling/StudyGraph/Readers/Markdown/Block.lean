import StudyGraph.Readers.Markdown.Cursor
import StudyGraph.Readers.Markdown.Html

/-!
# Openings of blocks

How the different blocks of Markdown open on a row: thematic breaks, headings, code fences, list
items and block quotes; and which of them end a paragraph on the row above (`interrupts`).
-/

namespace StudyGraph.Markdown

/-! ## Rows without indentation -/

/-- A thematic break: three or more of one of the characters `*`, `-` and `_`, among spaces and
tabs. -/
def isBreak : Text → Bool
  | [] => false
  | c :: t =>
    (c == '*' || c == '-' || c == '_') && t.all (fun d => d == c || d == ' ' || d == '\t') &&
      2 ≤ t.count c

/-- The start of a heading: one to six `#`, and then a space or the end of the row. -/
def isHeading (t : Text) : Bool :=
  let level := (t.takeWhile (· == '#')).length
  1 ≤ level && level ≤ 6 && (t.drop level).head?.all isSpace

/-- The underline of a heading: a run of `=` or of `-`. -/
def isUnderline : Text → Bool
  | [] => false
  | c :: t => (c == '=' || c == '-') && isBlankRow (t.dropWhile (· == c))

/-- The character of a code fence and how often it stands there. A fence of backticks has no further
backtick on its newline-delimited line, of which the rest stands on the rows below. -/
def fence? (t : Text) (ending : Ending) (below : List Row) : Option (Char × Nat) :=
  match t with
  | [] => none
  | c :: _ =>
    let size := (t.takeWhile (· == c)).length
    if (c == '`' || c == '~') && 3 ≤ size &&
        !(c == '`' && ((t.drop size).contains c || occursBehind c ending below)) then
      some (c, size)
    else none

/-- Whether a row closes a code fence: as many of its character, and then only blanks. -/
def closesFence (c : Char) (size : Nat) (t : Text) : Bool :=
  size ≤ (t.takeWhile (· == c)).length && (t.dropWhile (· == c)).all (· == ' ')

/-! ## List items -/

/-- What stands behind the mark of a list item, with the character of the mark and the number of an
ordered item. The mark is a bullet, or up to nine digits and a delimiter. -/
def mark? : Text → Option (Char × Option Nat × Text)
  | [] => none
  | c :: t =>
    if c == '-' || c == '+' || c == '*' then some (c, none, t)
    else
      let digits := ((c :: t).take 9).takeWhile Char.isDigit
      if digits.isEmpty then none
      else
        match (c :: t).drop digits.length with
        | d :: rest =>
          if d == '.' || d == ')' then
            some (d, some (digits.foldl (fun n e => 10 * n + (e.toNat - 48)) 0), rest)
          else none
        | [] => none

theorem length_lt_of_mark? {t rest : Text} {c : Char} {number : Option Nat}
    (h : mark? t = some (c, number, rest)) : rest.length < t.length := by
  cases t with
  | nil => simp [mark?] at h
  | cons d t =>
    rw [mark?] at h
    split at h
    · simp only [Option.some.injEq, Prod.mk.injEq] at h
      obtain ⟨-, -, rfl⟩ := h
      simp
    · simp only at h
      split at h
      · simp at h
      · split at h
        · next hd =>
          split at h
          · simp only [Option.some.injEq, Prod.mk.injEq] at h
            obtain ⟨-, -, rfl⟩ := h
            have := congrArg List.length hd
            simp only [List.length_drop, List.length_cons] at this ⊢
            omega
          · simp at h
        · simp at h

/-- The start of a list item. -/
structure ItemStart where
  /-- The character that tells the list from other lists. -/
  mark : Char
  /-- The columns by which the content of the item is indented. -/
  indent : Nat
  /-- Where the content starts. -/
  content : Cursor

/-- The start of a list item behind `outer` columns of indentation. At least one column of
indentation, or nothing at all, follows the mark; four or more further ones belong to the
content. -/
def Cursor.item? (c : Cursor) (outer : Nat) : Option ItemStart :=
  if isBreak c.rest then none
  else
    match mark? c.rest with
    | none => none
    | some (mark, _, rest) =>
      let size := c.rest.length - rest.length
      let (gap, behind) := (c.pass size rest).indentation 1
      if gap = 1 || behind.atEnd then
        let indent := outer + 1 + size
        if isBlankRow behind.rest then some ⟨mark, indent, behind⟩
        else
          let (more, content) := behind.indentation 4
          if more < 4 then some ⟨mark, indent + more, content⟩ else some ⟨mark, indent, behind⟩
      else none

theorem Cursor.length_lt_of_item? {c : Cursor} {outer : Nat} {item : ItemStart}
    (h : c.item? outer = some item) : item.content.rest.length < c.rest.length := by
  unfold item? at h
  split at h
  · simp at h
  · split at h
    · simp at h
    · next hm =>
      have hlt := length_lt_of_mark? hm
      simp only at h
      split at h
      · split at h
        · obtain rfl := Option.some.inj h
          exact Nat.lt_of_le_of_lt (length_indentation_le _ _) hlt
        · split at h
          · obtain rfl := Option.some.inj h
            exact Nat.lt_of_le_of_lt (Nat.le_trans (length_indentation_le _ _)
              (length_indentation_le _ _)) hlt
          · obtain rfl := Option.some.inj h
            exact Nat.lt_of_le_of_lt (length_indentation_le _ _) hlt
      · simp at h

/-- What stands behind the mark of a block quote and the column of indentation that belongs to
it. -/
def Cursor.quote? (c : Cursor) : Option Cursor :=
  match c.rest with
  | '>' :: rest => some ((c.pass 1 rest).indentation 1).2
  | _ => none

theorem Cursor.length_lt_of_quote? {c d : Cursor} (h : c.quote? = some d) :
    d.rest.length < c.rest.length := by
  unfold quote? at h
  split at h
  · next rest hc =>
    obtain rfl := Option.some.inj h
    refine Nat.lt_of_le_of_lt (length_indentation_le _ _) ?_
    simp [pass, hc]
  · simp at h

/-! ## Ends of paragraphs -/

/-- Whether a list item starts here that ends a paragraph. Inside the containers of the paragraph
the item has content on this row, and an ordered one has the number one. -/
def startsItem (inside : Bool) (t : Text) : Bool :=
  match mark? t with
  | none => false
  | some (_, number, rest) =>
    (rest.head?.all fun c => c == ' ' || c == '\t') &&
      (!inside || number.getD 1 = 1 && !isBlankRow rest)

/-- Whether a paragraph ends before a row: what is left of it after indentation is empty or opens
another block. `inside` says that the row is inside the containers of the paragraph, and the ending
and the rows below it tell what else stands on its newline-delimited line. -/
def interrupts (inside : Bool) (t : Text) (ending : Ending) (below : List Row) : Bool :=
  match t with
  | [] => true
  | c :: rest =>
    isBreak t || isHeading t || (fence? t ending below).isSome || c == '>' ||
      startsItem inside t ||
      c == '<' && ((Html.closing? rest).isSome || Html.opensElement rest)

end StudyGraph.Markdown
