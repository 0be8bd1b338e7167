import StudyGraph.Cut
import StudyGraph.Furigana
import StudyGraph.Ordered.Set
import StudyGraph.Ordered.Sorted

/-!
# Quizzes

A quiz is a flashcard, a sentence with blanks to fill, or a matching of readings with translations.
What a quiz asks is its `Question`; the rest of it are notes for whoever reviews it. The identity
of a quiz is the JSON text of its question, so two quizzes that ask the same have one identity
whatever their notes, and one of them can `absorb` the other: the notes that the newcomer has
replace the old ones, and the question stays.
-/

namespace StudyGraph

/-- Texts by the code of their language. -/
abbrev Translation := SortedMap Text

/-- The identity of a quiz. -/
abbrev QuizId := Text

/-- Notes that any quiz may carry. -/
structure Notes where
  /-- What the quiz is about, in other languages. -/
  translation : Option Translation
  /-- The sentence of the quiz with its reading. -/
  lede : Option Furigana
  deriving DecidableEq, Inhabited

/-- No notes. -/
def Notes.none : Notes := ⟨.none, .none⟩

/-- Every note that the newcomer has replaces the old one. -/
def Notes.absorb (notes newcomer : Notes) : Notes where
  translation := newcomer.translation.or notes.translation
  lede := newcomer.lede.or notes.lede

/-! ## Kinds of quizzes -/

/-- A flashcard. -/
structure Card where
  /-- What the card shows. -/
  prompt : Text
  /-- What it accepts. -/
  responses : List Text
  /-- Whether reviewing it is only recognition. -/
  passive : Bool
  /-- Whether it shows the responses of an item and asks for its prompt. -/
  inverted : Bool
  /-- Parts of speech, from general to special. -/
  partOfSpeech : Option (List Text)
  /-- The notes. -/
  notes : Notes
  deriving DecidableEq

/-- A card without notes. -/
def Card.make (prompt : Text) (responses : List Text) (passive inverted : Bool) : Card :=
  { prompt, responses, passive, inverted, partOfSpeech := none, notes := .none }

/-- Which rule made a cloze. -/
inductive Cloze.Rule where
  /-- A blank that the author asked for. -/
  | fill
  /-- A vocabulary item blanked without a hint. -/
  | seeNothing
  /-- A vocabulary item blanked with its prompt as hint. -/
  | seePrompt
  /-- A vocabulary item blanked with its responses as hint. -/
  | seeResponse
  deriving DecidableEq, Inhabited

/-- A sentence with blanks. -/
structure Cloze where
  /-- The sentence, with one blank for each list of answers. -/
  pieces : List Piece
  /-- The answers that each blank accepts. -/
  answers : List (List Text)
  /-- One hint for each blank. -/
  hints : Option (List Text)
  /-- The rule that made it. -/
  rule : Cloze.Rule
  /-- The notes. -/
  notes : Notes
  deriving DecidableEq

/-- A cloze without notes. -/
def Cloze.make (pieces : List Piece) (answers : List (List Text)) (hints : Option (List Text))
    (rule : Cloze.Rule) : Cloze :=
  { pieces, answers, hints, rule, notes := .none }

/-- The cloze of a cut sentence, which accepts the given answers, each once. -/
def Cloze.ofCut (cut : Cut) (rule : Cloze.Rule) (answers : List Text)
    (hints : Option (List Text)) : Cloze :=
  .make cut.pieces [(OrderedSet.ofList answers).toList] hints rule

/-- A reading and the translation it belongs to. -/
structure Pair where
  /-- The text with its reading. -/
  text : Furigana
  /-- Its translation. -/
  translation : Translation
  deriving DecidableEq

/-- A matching of readings with translations. -/
structure Matching where
  /-- The pairs to be found. -/
  pairs : List Pair
  /-- The lede with which the matching was made: it belongs to the question. -/
  sentence : Option Furigana
  /-- The notes. -/
  notes : Notes
  deriving DecidableEq

/-- A matching with notes. -/
def Matching.make (pairs : List Pair) (notes : Notes) : Matching :=
  { pairs, sentence := notes.lede, notes }

/-- A quiz of one of the three kinds. -/
inductive Quiz where
  | card (card : Card)
  | cloze (cloze : Cloze)
  | matching (matching : Matching)
  deriving DecidableEq

/-- The kinds of quizzes. -/
inductive Quiz.Kind where
  | card
  | cloze
  | matching
  deriving DecidableEq, Inhabited

/-- The word for a kind. -/
def Quiz.Kind.word : Quiz.Kind → Text
  | card => "card"
  | cloze => "cloze"
  | matching => "match"

/-! ## Questions and identity -/

/-- What a quiz asks. -/
inductive Question where
  | card (prompt : Text) (responses : List Text) (passive : Bool)
  | cloze (pieces : List Piece) (answers : List (List Text)) (hints : Option (List Text))
  | matching (sentence : Option Furigana) (pairs : List Pair)
  deriving DecidableEq

/-- Text is a JSON string, and a blank is `null`. -/
def Piece.toJson : Piece → Json
  | text t => .string t
  | blank => .null

/-- A translation is a JSON object, with the languages in order. -/
def translationToJson (translation : Translation) : Json :=
  .object (translation.entries.map fun (language, text) => (language, .string text))

/-- A pair is a JSON object. -/
def Pair.toJson (pair : Pair) : Json :=
  .object [("text", pair.text.toJson), ("translation", translationToJson pair.translation)]

/-- A question is a JSON object, with its keys in order. -/
def Question.toJson : Question → Json
  | card prompt responses passive =>
    .object [("passive", .bool passive), ("prompt", .string prompt),
      ("responses", .strings responses)]
  | cloze pieces answers hints =>
    .object [("clozes", .array (answers.map .strings)),
      ("contexts", .array (pieces.map Piece.toJson)), ("prompts", .ofOption .strings hints)]
  | matching sentence pairs =>
    .object [("lede", .ofOption Furigana.toJson sentence),
      ("pairs", .array (pairs.map Pair.toJson))]

namespace Quiz

/-- What the quiz asks. -/
def question : Quiz → Question
  | card c => .card c.prompt c.responses c.passive
  | cloze c => .cloze c.pieces c.answers c.hints
  | matching m => .matching m.sentence m.pairs

/-- The identity of the quiz. -/
def id (quiz : Quiz) : QuizId :=
  quiz.question.toJson.render

/-- The kind of the quiz. -/
def kind : Quiz → Kind
  | card _ => .card
  | cloze _ => .cloze
  | matching _ => .matching

/-- The notes of the quiz. -/
def notes : Quiz → Notes
  | card c => c.notes
  | cloze c => c.notes
  | matching m => m.notes

/-- The card, if the quiz is one. -/
def asCard? : Quiz → Option Card
  | card c => some c
  | _ => none

/-- Absorb a newcomer: it keeps the question, takes the notes that the newcomer has, and takes what
every quiz of its kind has. A newcomer of another kind replaces the quiz. -/
def absorb : Quiz → Quiz → Quiz
  | card old, card new => .card { old with
      inverted := new.inverted
      partOfSpeech := new.partOfSpeech.or old.partOfSpeech
      notes := old.notes.absorb new.notes }
  | cloze old, cloze new => .cloze { old with
      rule := new.rule
      notes := old.notes.absorb new.notes }
  | matching old, matching new => .matching { old with notes := old.notes.absorb new.notes }
  | _, new => new

/-- Absorbing a quiz of the same kind keeps the question. -/
theorem question_absorb {old new : Quiz} (h : old.kind = new.kind) :
    (old.absorb new).question = old.question := by
  cases old <;> cases new <;> simp_all [kind, absorb, question]

end Quiz

end StudyGraph
