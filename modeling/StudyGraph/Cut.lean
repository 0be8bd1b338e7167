import StudyGraph.Text.Search

/-!
# Cutting a blank out of a sentence

A locator says which part of a sentence becomes a blank. It is either the part itself, or
`left[part]right`, where only `part` is blanked and the context around it tells its occurrences
apart. `locate` finds the one place that a locator designates, and cuts the sentence there; a
locator that designates no place or several is refused, with the cause.
-/

namespace StudyGraph

/-- A stretch of a sentence with blanks. -/
inductive Piece where
  | text (t : Text)
  | blank
  deriving DecidableEq, Inhabited

/-- A sentence cut around one blank. -/
structure Cut where
  /-- The sentence before the blank. -/
  left : Text
  /-- What was blanked. -/
  blank : Text
  /-- The sentence behind the blank. -/
  right : Text
  deriving DecidableEq

namespace Cut

/-- Why a locator designates no single place, with the text at fault. -/
inductive Error where
  /-- The part does not occur. -/
  | notFound (locator : Text)
  /-- The part occurs more than once. -/
  | ambiguous (locator : Text)
  /-- The locator has a second bracketed part. -/
  | twoBrackets (locator : Text)
  /-- The part does not occur in its context. -/
  | contextNotFound (locator : Text)
  /-- The part occurs more than once in its context. -/
  | contextNotUnique (locator : Text)
  deriving DecidableEq

/-- The wording of an error. -/
def Error.message : Error → Text
  | notFound l => "cloze `" ++ l ++ "` not found"
  | ambiguous l => "cloze `" ++ l ++ "` is ambiguous without context"
  | twoBrackets l => "more than one bracketed cloze in `" ++ l ++ "`"
  | contextNotFound l => "cloze context `" ++ l ++ "` not found"
  | contextNotUnique l => "cloze context `" ++ l ++ "` is not unique"

/-! ## Locators -/

/-- The text before the first closing bracket, if it is not empty, and the text behind. -/
def closed? (t : Text) : Option (Text × Text) :=
  match t.takeWhile (· != ']'), t.dropWhile (· != ']') with
  | c :: inner, _ :: rest => some (c :: inner, rest)
  | _, _ => none

/-- The first bracketed part of a locator, between the texts before and behind it. -/
def bracketed? : Text → Option (Text × Text × Text)
  | [] => none
  | c :: t =>
    match if c = '[' then closed? t else none with
    | some (inner, rest) => some ([], inner, rest)
    | none => (bracketed? t).map fun (before, inner, rest) => (c :: before, inner, rest)

/-- Cut out `size` characters from position `start` on. -/
def ofSpan (sentence : Text) (start size : Nat) : Cut where
  left := sentence.take start
  blank := (sentence.drop start).take size
  right := (sentence.drop start).drop size

/-- The cut at the only occurrence of `left ++ part ++ right`, blanking `part`; otherwise `missing`
if there is none and `repeated` if there are several. -/
def atOnly (sentence left part right : Text) (missing repeated : Error) : Except Error Cut :=
  match Text.occurrences (left ++ part ++ right) sentence with
  | [] => .error missing
  | [i] => .ok (ofSpan sentence (i + left.length) part.length)
  | _ => .error repeated

/-- Cut the sentence at the one place that the locator designates. -/
def locate (sentence locator : Text) : Except Error Cut :=
  match bracketed? locator with
  | some (left, part, right) =>
    if (bracketed? right).isSome then .error (.twoBrackets locator)
    else atOnly sentence left part right (.contextNotFound locator) (.contextNotUnique locator)
  | none =>
    if locator.isEmpty then .error (.notFound [])
    else atOnly sentence [] locator [] (.notFound locator) (.ambiguous locator)

/-! ## Reading a cut -/

/-- The sentence with a blank in it. -/
def pieces (cut : Cut) : List Piece :=
  [.text cut.left, .blank, .text cut.right]

/-- One list of answers: what was blanked. -/
def answers (cut : Cut) : List (List Text) :=
  [[cut.blank]]

/-- The sentence with an answer written into the blank. -/
def fill (cut : Cut) (answer : Text) : Text :=
  cut.left ++ answer ++ cut.right

/-- The position of the blank in the sentence, in characters. -/
def start (cut : Cut) : Nat :=
  cut.left.length

/-- The position behind the blank, in characters. -/
def stop (cut : Cut) : Nat :=
  cut.start + cut.blank.length

@[simp] theorem ofSpan_fill_blank (sentence : Text) (start size : Nat) :
    (ofSpan sentence start size).fill (ofSpan sentence start size).blank = sentence := by
  simp only [fill, ofSpan, List.append_assoc]
  rw [List.take_append_drop, List.take_append_drop]

end Cut

end StudyGraph
