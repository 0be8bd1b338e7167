import StudyGraph.Readers.Markdown.Row
import StudyGraph.Text.Search

/-!
# Link reference definitions

Definitions `[label]: destination "title"` at the start of a paragraph are no part of it.
`withoutDefinitions` drops them from the rows of a paragraph; `definition?` reads one of them and
leaves the rows below it. A label and a title may spread over rows, and between label, destination
and title there is at most one end of a row each. `length_lt_of_definition?` says that a definition
takes a row or more.
-/

namespace StudyGraph.Markdown

/-- A row of a paragraph. -/
structure Line where
  /-- What stands on the row behind the marks of containers and the indentation. -/
  text : Text
  /-- The number of characters in front of the text. -/
  margin : Nat
  /-- How the row ends. -/
  ending : Ending
  /-- The byte at which its newline-delimited line begins. -/
  origin : Nat

/-- A place in a paragraph: what is left of its row and how the row ends, and the rows below. -/
structure Spot where
  /-- What is left of the row. -/
  text : Text
  /-- How the row ends. -/
  ending : Ending
  /-- The rows below. -/
  below : List Line

/-- The size at which a label is too long. -/
def labelLimit : Nat := 1000

/-- The parentheses that a destination may nest. -/
def nestingLimit : Nat := 33

/-! ## Labels -/

/-- The size of a character that is no space: ASCII counts for nothing. -/
def labelSize (c : Char) : Nat :=
  if c.utf8Size = 1 then 0 else c.utf8Size

/-- The place behind a label, from behind its opening bracket. The label so far has the given size;
`filled` says that it has more than spaces, and `broken` that only spaces follow an end of a row. A
backslash escapes punctuation. -/
def Spot.afterLabel? (size : Nat) (filled broken : Bool) (spot : Spot) : Option Spot :=
  if labelLimit ≤ size then none
  else
    match spot with
    | ⟨[], ending, below⟩ =>
      match broken, below with
      | false, line :: below =>
        afterLabel? (size + ending.size + line.margin) filled true ⟨line.text, line.ending, below⟩
      | _, _ => none
    | ⟨'[' :: _, _, _⟩ => none
    | ⟨']' :: t, ending, below⟩ => if filled then some ⟨t, ending, below⟩ else none
    | ⟨c :: t, ending, below⟩ =>
      if isSpace c then afterLabel? (size + 1) filled broken ⟨t, ending, below⟩
      else if c = '\\' && t.head?.any isPunctuation then
        afterLabel? (size + 2) true false ⟨t.tail, ending, below⟩
      else afterLabel? (size + labelSize c) true false ⟨t, ending, below⟩
  termination_by (spot.below.length, spot.text.length)

/-- The place behind spaces and at most one end of a row, and whether the row has ended. There is
none at the end of the paragraph, or if nothing but spaces stands on the next row. -/
def Spot.afterSpace? (spot : Spot) : Option (Bool × Spot) :=
  match spot.text.dropWhile isSpace, spot.below with
  | c :: t, below => some (false, ⟨c :: t, spot.ending, below⟩)
  | [], [] => none
  | [], line :: below =>
    match line.text.dropWhile isSpace with
    | [] => none
    | t => some (true, ⟨t, line.ending, below⟩)

/-! ## Destinations -/

/-- What follows a destination in angle brackets, from behind the opening one. -/
def afterAngled? : Text → Option Text
  | [] => none
  | '<' :: _ => none
  | '>' :: t => some t
  | '\\' :: c :: t => if isPunctuation c then afterAngled? t else afterAngled? (c :: t)
  | _ :: t => afterAngled? t

/-- What follows a bare destination with `depth` open parentheses: it ends at a blank or control
character, or at a parenthesis that closes nothing. -/
def afterBare? (depth : Nat) : Text → Option Text
  | [] => if depth = 0 then some [] else none
  | '(' :: t => if depth < nestingLimit then afterBare? (depth + 1) t else none
  | ')' :: t =>
    match depth with
    | 0 => some (')' :: t)
    | depth + 1 => afterBare? depth t
  | '\\' :: c :: t =>
    if isPunctuation c then afterBare? depth t else afterBare? depth (c :: t)
  | c :: t =>
    if c.toNat ≤ 0x20 then if depth = 0 then some (c :: t) else none
    else afterBare? depth t

/-- What follows a destination. -/
def afterDestination? : Text → Option Text
  | '<' :: t => afterAngled? t
  | t =>
    match afterBare? 0 t with
    | some rest => if rest.length < t.length then some rest else none
    | none => none

/-! ## Titles -/

/-- The place behind a title, from behind its opening delimiter. -/
def Spot.afterTitle? (closing : Char) (spot : Spot) : Option Spot :=
  match spot with
  | ⟨[], _, []⟩ => none
  | ⟨[], _, line :: below⟩ =>
    if isBlankRow line.text then none else afterTitle? closing ⟨line.text, line.ending, below⟩
  | ⟨'\\' :: _ :: t, ending, below⟩ => afterTitle? closing ⟨t, ending, below⟩
  | ⟨c :: t, ending, below⟩ =>
    if c = '(' && closing = ')' then none
    else if c = closing then some ⟨t, ending, below⟩
    else afterTitle? closing ⟨t, ending, below⟩
  termination_by (spot.below.length, spot.text.length)

/-- The delimiter that closes a title. -/
def closingDelimiter? (c : Char) : Option Char :=
  if c = '\'' || c = '"' then some c else if c = '(' then some ')' else none

/-- The rows below a title that nothing but spaces follow on its row. -/
def Spot.belowTitle? (spot : Spot) : Option (List Line) :=
  match spot.text with
  | [] => none
  | c :: t => do
    let closing ← closingDelimiter? c
    let behind ← Spot.afterTitle? closing ⟨t, spot.ending, spot.below⟩
    if isBlankRow behind.text then some behind.below else none

/-! ## Definitions -/

/-- The rows below a definition, from behind its destination. What does not read as a title belongs
to the paragraph if it stands on a row of its own, and otherwise spoils the definition. -/
def Spot.belowDestination? (spot : Spot) : Option (List Line) :=
  match spot.afterSpace? with
  | none => some spot.below
  | some (broken, next) =>
    if broken then some (next.belowTitle?.getD spot.below)
    else if next.text.length = spot.text.length then none
    else next.belowTitle?

/-- The rows below the link reference definition that the rows start with. -/
def definition? : List Line → Option (List Line)
  | ⟨'[' :: t, _, ending, _⟩ :: below => do
    let label ← Spot.afterLabel? 0 false false ⟨t, ending, below⟩
    let t ← Text.afterPrefix? ":" label.text
    let (_, start) ← Spot.afterSpace? ⟨t, label.ending, label.below⟩
    let t ← afterDestination? start.text
    Spot.belowDestination? ⟨t, start.ending, start.below⟩
  | _ => none

theorem Spot.length_below_le_of_afterLabel? {size : Nat} {filled broken : Bool} {spot stop : Spot}
    (h : spot.afterLabel? size filled broken = some stop) :
    stop.below.length ≤ spot.below.length := by
  fun_induction Spot.afterLabel? size filled broken spot <;> grind

theorem Spot.length_below_le_of_afterSpace? {spot stop : Spot} {broken : Bool}
    (h : spot.afterSpace? = some (broken, stop)) : stop.below.length ≤ spot.below.length := by
  unfold afterSpace? at h
  grind

theorem Spot.length_below_le_of_afterTitle? {closing : Char} {spot stop : Spot}
    (h : spot.afterTitle? closing = some stop) : stop.below.length ≤ spot.below.length := by
  fun_induction Spot.afterTitle? closing spot <;> grind

theorem Spot.length_le_of_belowTitle? {spot : Spot} {below : List Line}
    (h : spot.belowTitle? = some below) : below.length ≤ spot.below.length := by
  unfold belowTitle? at h
  split at h
  · simp at h
  · simp only [Option.bind_eq_bind, Option.bind_eq_some_iff] at h
    obtain ⟨closing, -, stop, hs, h⟩ := h
    have := length_below_le_of_afterTitle? hs
    grind

theorem Spot.length_le_of_belowDestination? {spot : Spot} {below : List Line}
    (h : spot.belowDestination? = some below) : below.length ≤ spot.below.length := by
  unfold belowDestination? at h
  split at h
  · grind
  · next broken next hs =>
    have hle := length_below_le_of_afterSpace? hs
    cases ht : next.belowTitle? with
    | none => grind
    | some rows => grind [length_le_of_belowTitle? ht]

/-- A definition takes at least the row on which it starts. -/
theorem length_lt_of_definition? {lines below : List Line} (h : definition? lines = some below) :
    below.length < lines.length := by
  unfold definition? at h
  split at h
  · simp only [Option.bind_eq_bind, Option.bind_eq_some_iff] at h
    obtain ⟨label, hl, t, -, ⟨broken, start⟩, hs, rest, -, h⟩ := h
    have h₁ := Spot.length_below_le_of_afterLabel? hl
    have h₂ := Spot.length_below_le_of_afterSpace? hs
    have h₃ := Spot.length_le_of_belowDestination? h
    simp only [List.length_cons] at h₁ h₂ h₃ ⊢
    omega
  · simp at h

/-- The rows of a paragraph without the definitions that they start with. -/
def withoutDefinitions (lines : List Line) : List Line :=
  match h : definition? lines with
  | some below =>
    have := length_lt_of_definition? h
    withoutDefinitions below
  | none => lines
  termination_by lines.length

end StudyGraph.Markdown
