import StudyGraph.Text.Blank
import StudyGraph.Text.Search
import StudyGraph.Ordered.Map

/-!
# Fields of an annotation line

What follows the lead of an annotation line is a list of values, separated by `@`, and then the
region of the markers. The region starts at the first `@` that is followed by a character other
than white space and that opens the text or follows white space; in it every `@` starts a marker, a
name up to the next white space and a text. `ofText` reads the fields, `render` writes them.
-/

namespace StudyGraph

/-- The values of an annotation line and its markers. -/
structure Fields where
  /-- The values in front of the markers, trimmed. -/
  values : List Text
  /-- The texts of the markers by their names. -/
  markers : OrderedMap Text Text
  deriving DecidableEq

namespace Fields

/-- Whether the text starts with `@` and a character that is not blank. -/
def opensMarker : Text → Bool
  | '@' :: c :: _ => !Text.isBlank c
  | _ => false

/-- The text before the first blank that is followed by the start of a marker, and the rest. -/
def cutAtBlank : Text → Text × Text
  | [] => ([], [])
  | c :: t =>
    if Text.isBlank c && opensMarker t then ([], c :: t)
    else (c :: (cutAtBlank t).1, (cutAtBlank t).2)

/-- The part with the values, and the region of the markers. -/
def cutRegion (t : Text) : Text × Text :=
  if opensMarker t then ([], t) else cutAtBlank t

theorem cutAtBlank_append (t : Text) : (cutAtBlank t).1 ++ (cutAtBlank t).2 = t := by
  induction t with
  | nil => rfl
  | cons c t ih => rw [cutAtBlank]; split <;> simp [ih]

theorem cutRegion_append (t : Text) : (cutRegion t).1 ++ (cutRegion t).2 = t := by
  unfold cutRegion
  split
  · rfl
  · exact cutAtBlank_append t

/-- A name and a text, from what stands between two `@` of the region. -/
def marker? : Text → Option (Text × Text)
  | [] => none
  | c :: t =>
    if Text.isBlank c then none
    else
      let name := (c :: t).takeWhile fun d => !Text.isBlank d
      some (name, Text.trim ((c :: t).dropWhile fun d => !Text.isBlank d))

/-- Read the fields. Of two markers with one name the later text counts, at the earlier place. -/
def ofText (t : Text) : Fields where
  values := (Text.splitOn '@' (cutRegion t).1).map Text.trim
  markers := .ofList ((Text.splitOn '@' (Text.trim (cutRegion t).2)).filterMap marker?)

/-- Read the fields of a line from byte `offset` on, or of the whole line when no character starts
there. -/
def ofLine (line : Text) (offset : Nat) : Fields :=
  ofText ((Text.dropBytes? offset line).getD line)

/-- The text of a marker. -/
def marker (fields : Fields) (name : Text) : Option Text :=
  fields.markers.get? name

/-- The first value. -/
def first (fields : Fields) : Text :=
  fields.values.headD []

/-- The values behind the first. -/
def rest (fields : Fields) : List Text :=
  fields.values.tail

/-- A marker behind a blank, with its text if there is one. -/
def renderMarker (m : Text × Text) : Text :=
  " @" ++ m.1 ++ if m.2.isEmpty then [] else ' ' :: m.2

/-- Write fields: the values with `@` between them, then the markers. -/
def render (fields : Fields) : Text :=
  Text.join " @ " fields.values ++ fields.markers.entries.flatMap renderMarker

end Fields

end StudyGraph
