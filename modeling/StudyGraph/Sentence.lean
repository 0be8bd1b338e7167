import StudyGraph.Bullet
import StudyGraph.Failure
import StudyGraph.Fields
import StudyGraph.Quiz.Trio

/-!
# The sentence of a block

The header of a block gives a sentence with its responses; the run of bullets directly behind it
says more about the sentence. `Sentence.read` gathers what every bullet of the block is built on:
the cards of the sentence, the notes that its translation and its reading make, and, where the
reading spells out exactly the sentence, the readings of its characters.
-/

namespace StudyGraph

/-- A bullet line with its kind and the content behind its lead. -/
structure Bullet where
  /-- What the bullet is about. -/
  kind : Bullet.Kind
  /-- What stands behind the lead. -/
  content : Text
  /-- The whole line. -/
  line : Line
  deriving DecidableEq

namespace Bullet

/-- The fields behind the lead. -/
def fields (bullet : Bullet) : Fields :=
  .ofText bullet.content

/-- The bullets that the lines start with. -/
def run : List Line → List Bullet
  | [] => []
  | line :: lines =>
    match classify line.text with
    | some (kind, content) => ⟨kind, content, line⟩ :: run lines
    | none => []

end Bullet

/-! ## Items -/

/-- A prompt with what answers it. -/
structure Item where
  /-- What is asked. -/
  prompt : Text
  /-- What answers it. -/
  responses : List Text
  deriving DecidableEq

/-- The item of a line: its first value, and the further values as responses. A line without further
values is its own response. -/
def Fields.item (fields : Fields) : Item where
  prompt := fields.first
  responses := if fields.rest.isEmpty then [fields.first] else fields.rest

/-- What follows the marker for a translation, in a name that has it. -/
def language? (name : Text) : Option Text :=
  Text.afterPrefix? "t-" name

/-- A translation, unless nothing is translated. -/
def translationOf? (texts : List (Text × Text)) : Option Translation :=
  if texts.isEmpty then none else some (.ofList texts)

/-- The translation in the markers `@t-language`. -/
def Fields.translation? (fields : Fields) : Option Translation :=
  translationOf? (fields.markers.entries.filterMap fun (name, text) =>
    (language? name).map (·, text))

/-- The translation in the markers of a translation bullet, where every name is a language and may
leave out `t-`. -/
def Fields.bulletTranslation? (fields : Fields) : Option Translation :=
  translationOf? (fields.markers.entries.map fun (name, text) => ((language? name).getD name, text))

/-- Read the reading on a line. -/
def readFurigana (line : Line) (t : Text) : Except Fault Furigana :=
  (Furigana.parse t).mapError fun e => ⟨.badFurigana e, line⟩

/-! ## Sentences -/

/-- The sentence of a block, as its bullets see it. -/
structure Sentence where
  /-- The header line. -/
  header : Line
  /-- The sentence and its responses. -/
  item : Item
  /-- The cards of the sentence. -/
  cards : Trio Card
  /-- The translation and the reading of the sentence. -/
  notes : Notes
  /-- The readings of the characters, where the reading spells out exactly the sentence. -/
  readings : Option (List Text)

namespace Sentence

/-- The translation of a sentence: that of the header, or else that of the first bullet for it. -/
def translationOf (fields : Fields) (bullets : List Bullet) : Option Translation :=
  fields.translation?.or
    ((bullets.find? (·.kind = .translation)).bind fun b => b.fields.bulletTranslation?)

/-- The reading of a sentence: that of the first bullet for it. -/
def ledeOf (bullets : List Bullet) : Except Fault (Option Furigana) :=
  match bullets.find? (·.kind = .furigana) with
  | none => .ok none
  | some b => (readFurigana b.line b.content.trim).map some

/-- The readings of the characters, if the reading spells out exactly the prompt. -/
def readingsOf (prompt : Text) (lede : Option Furigana) : Option (List Text) :=
  (lede.filter fun units => units.base = prompt).map Furigana.readings

/-- Read the sentence of a header with the given content, and of its bullets. -/
def read (header : Line) (content : Text) (bullets : List Bullet) : Except Fault Sentence := do
  let fields := Fields.ofText content
  if fields.first.isEmpty then throw ⟨.missingPrompt, header⟩
  let item := fields.item
  let lede ← ledeOf bullets
  let notes : Notes := ⟨translationOf fields bullets, lede⟩
  let cards := (Card.trio item.prompt item.responses).map fun card => { card with notes }
  return { header, item, cards, notes, readings := readingsOf item.prompt lede }

/-- The cards of the sentence. -/
def quizzes (s : Sentence) : List Quiz :=
  s.cards.toList.map .card

/-- The slots of the cards of the sentence. -/
def slots (s : Sentence) : List (Option Quiz) :=
  s.cards.slots.map (Option.map .card)

/-- The raw text of a bullet: the header and the bullet line. -/
def raw (s : Sentence) (bullet : Bullet) : Text :=
  s.header.text ++ '\n' :: bullet.line.text

/-- The reading of a blank, if the blank starts and ends between units of the reading. -/
def readingOf (s : Sentence) (cut : Cut) : Option Text := do
  let readings ← s.readings
  if readings.length < cut.stop then none
  else if (readings[cut.start]?.all (·.isEmpty)) || (readings[cut.stop]?.any (·.isEmpty)) then none
  else some ((readings.drop cut.start).take cut.blank.length).flatten

end Sentence

end StudyGraph
