import StudyGraph.Matrix

/-!
# The linking policies

Which quizzes of a group credit each other. A set cell in row `c` and column `p` means that a
review of the quiz in slot `p` counts as a passive review of the quiz in slot `c`. The slots are

* 0 to 2: the cards of the sentence,
* 3 to 5: the cards of a vocabulary item,
* 6 to 8: the clozes of that item,
* 9: the matching of the sentence, for the matching policy alone.

`sentencePolicy` is a grid of three by three blocks, whose rows are those credited and whose columns
are those reviewed. By `matchingPolicy` a review of the matching credits the first two members of
every trio, and a review of a card of the sentence or of a cloze credits the matching.
-/

namespace StudyGraph

/-- The number of slots of a sentence group. -/
def sentenceSlots : Nat := 9

/-- The number of slots of a matching group. -/
def matchingSlots : Nat := 10

/-- Blocks of digits side by side. -/
def Matrix.band (blocks : List Text) : Except Matrix.Error Matrix := do
  Matrix.beside (← blocks.mapM Matrix.ofDigits)

/-- The sentence policy out of its blocks. -/
def sentencePolicy? : Except Matrix.Error Matrix := do
  let top ← Matrix.band ["011 101 000", "000 000 000", "111 111 000"]
  let middle ← Matrix.band ["111 111 001", "011 101 000", "111 111 001"]
  let bottom ← Matrix.band ["111 111 001", "000 111 001", "011 101 000"]
  Matrix.stack [top, middle, bottom]

/-- The matching policy: its last column in the first nine rows, then its last row. -/
def matchingPolicy? : Except Matrix.Error Matrix :=
  let column : Text := "110110110"
  let rows := column.map fun bit => List.replicate sentenceSlots '0' ++ [bit]
  Matrix.ofDigits (Text.join " " (rows ++ ["1110001110".toList]))

/-- The policy for the cards of a sentence and the quizzes of a vocabulary item. -/
def sentencePolicy : Matrix :=
  sentencePolicy?.toOption.get (by decide)

/-- The policy for those quizzes and the matching of the sentence. -/
def matchingPolicy : Matrix :=
  matchingPolicy?.toOption.get (by decide)

theorem height_sentencePolicy : sentencePolicy.height = sentenceSlots := by decide

theorem width_sentencePolicy : sentencePolicy.width = sentenceSlots := by decide

theorem height_matchingPolicy : matchingPolicy.height = matchingSlots := by decide

theorem width_matchingPolicy : matchingPolicy.width = matchingSlots := by decide

end StudyGraph
