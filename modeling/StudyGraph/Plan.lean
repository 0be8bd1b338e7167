import StudyGraph.Matrix.Policy
import StudyGraph.Sentence

/-!
# The plan of a block

What a block contributes to a graph is a list of steps: quizzes registered under raw texts, quizzes
that credit each other, and groups linked by a policy. `Sentence.plan` lists the steps in parts, the
header first, then the fill bullets, then the vocabulary bullets, and last the matching; a part that
is at fault stops the block. The steps are carried out on an empty graph (`stage`), so that a block
that fails contributes nothing.

The plan looks at the graph around it in one respect only: a bullet that repeats the sentence gives
it a part of speech only if none is `known`.
-/

namespace StudyGraph

/-- A step of a plan. -/
inductive Step where
  /-- Insert a quiz and list it under a raw text. -/
  | register (raw : Text) (quiz : Quiz)
  /-- Add an edge. -/
  | credit (parent child : Quiz)
  /-- Link a group by a policy, on behalf of a line. -/
  | link (policy : Matrix) (group : List (Option Quiz)) (line : Line)

/-- Carry out a step. -/
def Step.run (g : Graph) : Step → Except Fault Graph
  | register raw quiz => .ok (g.insertWithRaw raw quiz)
  | credit parent child => .ok (g.addEdge parent child)
  | link policy group line => (g.link policy group).mapError fun e => ⟨.size e, line⟩

/-- A bullet, the header or the matching, with the steps it gives. -/
structure Part where
  /-- The bullet, if the part is one. -/
  bullet : Option Bullet
  /-- The steps. -/
  steps : Except Fault (List Step)

/-- Carry out the parts in order, up to the first fault. -/
def Part.runAll (g : Graph) (parts : List Part) : Except Fault Graph :=
  parts.foldlM (fun g part => do (← part.steps).foldlM Step.run g) g

/-! ## Vocabulary -/

/-- The quizzes of a vocabulary bullet. -/
structure Vocabulary where
  /-- The bullet. -/
  bullet : Bullet
  /-- The cards of the item. -/
  cards : Trio Card
  /-- The clozes that blank the item out of the sentence. -/
  clozes : Option (Trio Cloze)

/-- What a vocabulary bullet gives. -/
inductive Entry where
  /-- It repeats the sentence, and may give it a part of speech. -/
  | repeats (partOfSpeech : Option (List Text))
  /-- It gives quizzes. -/
  | vocabulary (vocabulary : Vocabulary)

/-- Whether an entry gives the sentence a part of speech. -/
def Entry.givesPartOfSpeech : Entry → Bool
  | repeats partOfSpeech => partOfSpeech.isSome
  | vocabulary _ => false

/-- The quizzes of an entry, if it has its own. -/
def Entry.vocabulary? : Entry → Option Vocabulary
  | repeats _ => none
  | vocabulary v => some v

namespace Vocabulary

/-- The slots of the cards. -/
def cardSlots (v : Vocabulary) : List (Option Quiz) :=
  v.cards.slots.map (Option.map .card)

/-- The slots of the clozes. -/
def clozeSlots (v : Vocabulary) : List (Option Quiz) :=
  match v.clozes with
  | none => Trio.noSlots
  | some clozes => clozes.slots.map (Option.map .cloze)

/-- The pair of the item, if its own bullet gives it both a reading and a translation. -/
def pair? (v : Vocabulary) : Option Pair := do
  let text ← v.cards.first.notes.lede
  let translation ← v.cards.first.notes.translation
  return { text, translation }

end Vocabulary

namespace Sentence

/-! ## Parts -/

/-- The group of a vocabulary item: the cards of the sentence, and the quizzes of the item. -/
def group (s : Sentence) (v : Vocabulary) : List (Option Quiz) :=
  s.slots ++ v.cardSlots ++ v.clozeSlots

/-- The cards of the sentence under the header, and the edges among them. -/
def headerSteps (s : Sentence) : List Step :=
  s.quizzes.map (.register s.header.text) ++
    [.link sentencePolicy (s.slots ++ Trio.noSlots ++ Trio.noSlots) s.header]

/-- Cut the sentence at a locator on a line. -/
def cutAt (s : Sentence) (locator : Text) (line : Line) : Except Fault Cut :=
  (Cut.locate s.item.prompt locator).mapError fun e => ⟨.cut e, line⟩

/-- The cloze of a fill bullet: the blank accepts what was blanked and the further values. -/
def fillCloze (s : Sentence) (bullet : Bullet) : Except Fault Cloze := do
  let fields := bullet.fields
  if fields.first.isEmpty then throw ⟨.noBlank, bullet.line⟩
  let cut ← s.cutAt fields.first bullet.line
  return { Cloze.ofCut cut .fill (cut.blank :: fields.rest) none with notes := s.notes }

/-- The cloze of a fill bullet and every card of the sentence credit each other. -/
def fillSteps (s : Sentence) (bullet : Bullet) : Except Fault (List Step) := do
  let quiz := Quiz.cloze (← s.fillCloze bullet)
  return .register (s.raw bullet) quiz ::
    s.quizzes.flatMap fun card => [.credit card quiz, .credit quiz card]

/-- The locator of a vocabulary item: its marker `@omit`, or its prompt where the sentence has
it. -/
def locator? (s : Sentence) (fields : Fields) : Option Text :=
  match (fields.marker "omit").filter (!·.isEmpty) with
  | some marked => some marked
  | none => if Text.contains fields.first s.item.prompt then some fields.first else none

/-- The clozes of a vocabulary item, if the sentence has it. -/
def vocabularyClozes (s : Sentence) (fields : Fields) (trivial : Bool) (line : Line) :
    Except Fault (Option (Trio Cloze)) :=
  match s.locator? fields with
  | none => .ok none
  | some locator => do
    let cut ← s.cutAt locator line
    let item := fields.item
    let trio := Cloze.trio cut item.prompt item.responses (s.readingOf cut) trivial
    return some (trio.map fun cloze => { cloze with notes := s.notes })

/-- The reading in the marker `@furigana` of a bullet. -/
def markedFurigana (fields : Fields) (line : Line) : Except Fault (Option Furigana) :=
  match fields.marker "furigana" with
  | none => .ok none
  | some t => (readFurigana line t).map some

/-- The parts of speech in the marker `@pos`. -/
def partOfSpeech? (fields : Fields) : Option (List Text) :=
  (fields.marker "pos").map (Text.splitOn '-')

/-- What a vocabulary bullet gives. -/
def entry (s : Sentence) (bullet : Bullet) : Except Fault Entry := do
  let fields := bullet.fields
  if fields.first.isEmpty then throw ⟨.noPrompt, bullet.line⟩
  let item := fields.item
  let lede ← markedFurigana fields bullet.line
  if item = s.item then return .repeats (partOfSpeech? fields)
  let notes : Notes := ⟨fields.translation?, lede⟩
  let cards := (Card.trio item.prompt item.responses).map fun card =>
    { card with partOfSpeech := partOfSpeech? fields, notes }
  let clozes ← s.vocabularyClozes fields cards.isTrivial bullet.line
  return .vocabulary { bullet, cards, clozes }

/-- The quizzes of a vocabulary item under their bullet, and the edges of the group. -/
def vocabularySteps (s : Sentence) (v : Vocabulary) : List Step :=
  (v.cardSlots ++ v.clozeSlots).filterMap (·.map (.register (s.raw v.bullet))) ++
    [.link sentencePolicy (s.group v) v.bullet.line]

/-- The cards of the sentence once more, with a part of speech. -/
def repeatSteps (s : Sentence) (partOfSpeech : List Text) : List Step :=
  s.cards.toList.map fun card =>
    .register s.header.text (.card { card with partOfSpeech := some partOfSpeech })

/-- The steps of an entry. A part of speech that is `known` is not replaced. -/
def entrySteps (s : Sentence) (known : Bool) : Entry → List Step
  | .repeats (some partOfSpeech) => if known then [] else s.repeatSteps partOfSpeech
  | .repeats none => []
  | .vocabulary v => s.vocabularySteps v

/-- The vocabulary parts, in the order of their bullets. The flag says whether the sentence has a
part of speech already. -/
def vocabularyParts (s : Sentence) : (known : Bool) → List Bullet → List Part
  | _, [] => []
  | known, bullet :: bullets =>
    match s.entry bullet with
    | .error fault => ⟨some bullet, .error fault⟩ :: vocabularyParts s known bullets
    | .ok entry =>
      ⟨some bullet, .ok (s.entrySteps known entry)⟩ ::
        vocabularyParts s (known || entry.givesPartOfSpeech) bullets

/-- The vocabulary of the bullets, those at fault left out. -/
def vocabularies (s : Sentence) (bullets : List Bullet) : List Vocabulary :=
  bullets.filterMap fun bullet => (s.entry bullet).toOption.bind Entry.vocabulary?

/-- The matching of the pairs that the vocabulary gives, if it gives any. -/
def matching? (s : Sentence) (vocabularies : List Vocabulary) : Option Matching :=
  let pairs := vocabularies.filterMap Vocabulary.pair?
  if pairs.isEmpty then none else some (.make pairs s.notes)

/-- The matching under the header, and the edges between it and every vocabulary group. -/
def matchingSteps (s : Sentence) (vocabularies : List Vocabulary) : List Step :=
  match s.matching? vocabularies with
  | none => []
  | some matching =>
    .register s.header.text (.matching matching) ::
      vocabularies.map fun v =>
        .link matchingPolicy (s.group v ++ [some (.matching matching)]) s.header

/-- The parts of a block with this sentence and these bullets. -/
def plan (s : Sentence) (known : Bool) (bullets : List Bullet) : List Part :=
  let fills := bullets.filter (·.kind = .fill)
  let items := bullets.filter (·.kind = .vocabulary)
  ⟨none, .ok s.headerSteps⟩ ::
    fills.map (fun bullet => ⟨some bullet, s.fillSteps bullet⟩) ++
    s.vocabularyParts known items ++
    [⟨none, .ok (s.matchingSteps (s.vocabularies items))⟩]

/-- Whether the first card of the sentence has a part of speech in a graph. -/
def isKnown (s : Sentence) (g : Graph) : Bool :=
  ((g.get? (Quiz.card s.cards.first).id).bind Quiz.asCard?).any (·.partOfSpeech.isSome)

end Sentence

/-! ## Blocks -/

namespace Block

/-- The bullets directly behind the header. -/
def bullets (block : Block) : List Bullet :=
  Bullet.run block.body

/-- The parts of a block that is compiled into a graph. A block without an annotated header has
none. -/
def plan? (g : Graph) (block : Block) : Option (List Part) := do
  let header ← block.header?
  let content ← headerContent? header.text
  match Sentence.read header content block.bullets with
  | .error fault => return [⟨none, .error fault⟩]
  | .ok s => return s.plan (s.isKnown g) block.bullets

/-- What a block contributes to a graph. -/
def stage (g : Graph) (block : Block) : Except Fault Graph :=
  match block.plan? g with
  | none => .ok .empty
  | some parts => Part.runAll .empty parts

end Block

end StudyGraph
