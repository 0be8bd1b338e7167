import StudyGraph.Quiz

/-!
# Trios

The quizzes for one item come in three directions: one that gives nothing away, one that shows the
prompt and one that shows the response. When prompt and response coincide only the first makes
sense, so a trio has its first member always and the other two together or not at all.
-/

namespace StudyGraph

/-- One quiz for an item, or three. -/
structure Trio (α : Type) where
  /-- The quiz that gives nothing away. -/
  first : α
  /-- The quizzes that show the prompt and the response. -/
  sides : Option (α × α)
  deriving DecidableEq

namespace Trio

variable {α β : Type}

/-- The three places, those without a quiz empty. -/
def slots (trio : Trio α) : List (Option α) :=
  [some trio.first, trio.sides.map Prod.fst, trio.sides.map Prod.snd]

/-- Three empty places. -/
def noSlots : List (Option α) :=
  [none, none, none]

/-- The quizzes there are. -/
def toList (trio : Trio α) : List α :=
  trio.slots.filterMap id

/-- Only the first quiz exists. -/
def isTrivial (trio : Trio α) : Bool :=
  trio.sides.isNone

/-- Change every quiz of a trio. -/
def map (f : α → β) (trio : Trio α) : Trio β where
  first := f trio.first
  sides := trio.sides.map fun (a, b) => (f a, f b)

@[simp] theorem length_slots (trio : Trio α) : trio.slots.length = 3 := rfl

@[simp] theorem slots_map (f : α → β) (trio : Trio α) :
    (trio.map f).slots = trio.slots.map (Option.map f) := by
  obtain ⟨first, _ | ⟨a, b⟩⟩ := trio <;> rfl

end Trio

/-- What joins several responses into one prompt. -/
def responseSeparator : Text := "・"

/-- The cards of an item: one to recognise it, one that shows its prompt and one that shows its
responses. An item without responses is its own response. -/
def Card.trio (prompt : Text) (responses : List Text) : Trio Card :=
  let responses := if responses.isEmpty then [prompt] else responses
  { first := .make prompt responses true false
    sides :=
      if responses = [prompt] then none
      else some (.make prompt responses false false,
        .make (Text.join responseSeparator responses) [prompt] false true) }

/-- The clozes of an item that is cut out of a sentence: without a hint, with the prompt as hint,
and with the responses as hint. The first accepts the reading of the item too, where it has one. -/
def Cloze.trio (cut : Cut) (prompt : Text) (responses : List Text) (reading : Option Text)
    (trivial : Bool) : Trio Cloze where
  first := .ofCut cut .seeNothing (responses ++ [prompt] ++ reading.toList) none
  sides :=
    if trivial then none
    else some (.ofCut cut .seePrompt (responses ++ [prompt]) (some [prompt]),
      .ofCut cut .seeResponse [prompt] (some [Text.join responseSeparator responses]))

end StudyGraph
