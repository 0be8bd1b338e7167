import StudyGraph.Graph
import StudyGraph.Text.Literal

/-!
# Dumps

A graph in full, for whoever wants to look at it. A `Dump` is a value with named parts; `render`
writes it with each part on a line of its own, indented by four blanks more than the whole and ended
by a comma.
-/

namespace StudyGraph

/-- A value with named parts. -/
inductive Dump where
  /-- A value without parts. -/
  | word (t : Text)
  /-- A name applied to values. -/
  | apply (name : Text) (parts : List Dump)
  /-- A name with named values. -/
  | record (name : Text) (fields : List (Text × Dump))
  /-- A sequence of values. -/
  | sequence (items : List Dump)
  /-- A set of values. -/
  | set (items : List Dump)
  /-- Values by values. -/
  | map (entries : List (Dump × Dump))

namespace Dump

/-- A new line at a depth. -/
def newline (depth : Nat) : Text :=
  '\n' :: List.replicate (4 * depth) ' '

/-- Lines between two brackets, or the brackets alone if there are none. -/
def bracket (opening closing : Text) (depth : Nat) (lines : List Text) : Text :=
  if lines.isEmpty then opening ++ closing
  else
    opening ++ lines.flatMap (fun line => newline (depth + 1) ++ line ++ [',']) ++ newline depth ++
      closing

mutual

/-- The text of a value at a depth. -/
def render (depth : Nat) : Dump → Text
  | word t => t
  | apply name parts => bracket (name ++ ['(']) [')'] depth (renderAll (depth + 1) parts)
  | record name fields =>
    bracket (name ++ [' ', '\x7b']) ['\x7d'] depth (renderFields (depth + 1) fields)
  | sequence items => bracket ['['] [']'] depth (renderAll (depth + 1) items)
  | set items => bracket ['\x7b'] ['\x7d'] depth (renderAll (depth + 1) items)
  | map entries => bracket ['\x7b'] ['\x7d'] depth (renderEntries (depth + 1) entries)

/-- The texts of values. -/
def renderAll (depth : Nat) : List Dump → List Text
  | [] => []
  | d :: ds => render depth d :: renderAll depth ds

/-- The texts of named values. -/
def renderFields (depth : Nat) : List (Text × Dump) → List Text
  | [] => []
  | (name, d) :: ds => (name ++ ": " ++ render depth d) :: renderFields depth ds

/-- The texts of values by values. -/
def renderEntries (depth : Nat) : List (Dump × Dump) → List Text
  | [] => []
  | (k, d) :: ds => (render depth k ++ ": " ++ render depth d) :: renderEntries depth ds

end

/-! ## Parts of a graph -/

/-- A text is a literal. -/
def ofText (t : Text) : Dump :=
  word (Text.literal t)

/-- A truth value is a word. -/
def ofBool (b : Bool) : Dump :=
  word (if b then "true" else "false")

/-- A value that may be absent. -/
def ofOption {α : Type} (f : α → Dump) : Option α → Dump
  | none => word "None"
  | some a => apply "Some" [f a]

/-- A list of texts. -/
def ofTexts (ts : List Text) : Dump :=
  sequence (ts.map ofText)

/-- The identity of a quiz. -/
def ofId (id : QuizId) : Dump :=
  apply "QuizId" [ofText id]

/-- A set of identities. -/
def ofIds (ids : OrderedSet QuizId) : Dump :=
  set (ids.toList.map ofId)

/-- A unit of furigana. -/
def ofUnit : Furigana.Unit → Dump
  | .plain t => apply "Plain" [ofText t]
  | .ruby base reading => record "Ruby" [("ruby", ofText base), ("rt", ofText reading)]

/-- A text with its reading. -/
def ofFurigana (units : Furigana) : Dump :=
  sequence (units.map ofUnit)

/-- A translation. -/
def ofTranslation (translation : Translation) : Dump :=
  map (translation.entries.map fun (language, t) => (ofText language, ofText t))

/-- The notes of a quiz. -/
def ofNotes (notes : Notes) : Dump :=
  record "Annotations" [("translation", ofOption ofTranslation notes.translation),
    ("lede", ofOption ofFurigana notes.lede)]

/-- A piece of a sentence. -/
def ofPiece : Piece → Dump
  | .text t => apply "Text" [ofText t]
  | .blank => word "Blank"

/-- The rule that made a cloze. -/
def ofRule : Cloze.Rule → Dump
  | .fill => word "Fill"
  | .seeNothing => word "SeeNothing"
  | .seePrompt => word "SeePrompt"
  | .seeResponse => word "SeeResponse"

/-- A pair of a matching. -/
def ofPair (pair : Pair) : Dump :=
  record "MatchPair" [("text", ofFurigana pair.text),
    ("translation", ofTranslation pair.translation)]

/-- A quiz. -/
def ofQuiz (quiz : Quiz) : Dump :=
  match quiz with
  | .card c => apply "Card" [record "Card" [("id", ofId quiz.id), ("prompt", ofText c.prompt),
      ("responses", ofTexts c.responses), ("passive", ofBool c.passive),
      ("inverted", ofBool c.inverted), ("part_of_speech", ofOption ofTexts c.partOfSpeech),
      ("annotations", ofNotes c.notes)]]
  | .cloze c => apply "Cloze" [record "Cloze" [("id", ofId quiz.id),
      ("contexts", sequence (c.pieces.map ofPiece)), ("clozes", sequence (c.answers.map ofTexts)),
      ("prompts", ofOption ofTexts c.hints), ("subkind", ofRule c.rule),
      ("annotations", ofNotes c.notes)]]
  | .matching m => apply "Match" [record "Match" [("id", ofId quiz.id),
      ("pairs", sequence (m.pairs.map ofPair)), ("annotations", ofNotes m.notes)]]

/-- A graph. -/
def ofGraph (g : Graph) : Dump :=
  record "QuizGraph" [
    ("nodes", map (g.nodes.entries.map fun (id, quiz) => (ofId id, ofQuiz quiz))),
    ("edges", map (g.edges.entries.map fun (id, ids) => (ofId id, ofIds ids))),
    ("raws", map (g.raws.entries.map fun (raw, ids) => (ofText raw, ofIds ids)))]

end Dump

end StudyGraph
