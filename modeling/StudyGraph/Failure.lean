import StudyGraph.Block
import StudyGraph.Cut
import StudyGraph.Furigana
import StudyGraph.Graph.Link

/-!
# Failures

Why a block does not compile. A `Cause` says what is wrong, a `Fault` on which line, and a `Failure`
in which file. A `Diagnostic` is what an author is shown of a failure.
-/

namespace StudyGraph

/-- What is wrong with a line. -/
inductive Cause where
  /-- The header has no prompt. -/
  | missingPrompt
  /-- A locator designates no single place of the sentence. -/
  | cut (error : Cut.Error)
  /-- A policy does not fit its group. -/
  | size (error : Link.SizeError)
  /-- A fill bullet has no locator. -/
  | noBlank
  /-- A vocabulary bullet has no prompt. -/
  | noPrompt
  /-- A reading is not furigana notation. -/
  | badFurigana (error : Furigana.Error)
  deriving DecidableEq

/-- The wording of what is wrong with a locator in a sentence. -/
def Cause.cutMessage : Cut.Error → Text
  | .notFound l => "cloze `" ++ l ++ "` not found in sentence"
  | .ambiguous l =>
    "cloze `" ++ l ++ "` occurs more than once; disambiguate with `left[cloze]right`"
  | .twoBrackets l => "only one bracketed cloze is supported: `" ++ l ++ "`"
  | .contextNotFound l => "cloze with context `" ++ l ++ "` not found in sentence"
  | .contextNotUnique l => "cloze context `" ++ l ++ "` matches more than once"

/-- The wording of a cause. -/
def Cause.message : Cause → Text
  | missingPrompt => "header has no prompt"
  | cut e => cutMessage e
  | size e =>
    "dependency matrix has " ++ Text.ofNat e.expected ++ " slots but the group has " ++
      Text.ofNat e.actual
  | noBlank => "malformed bullet: fill bullet has no blank"
  | noPrompt => "malformed bullet: vocabulary bullet has no prompt"
  | badFurigana e => "malformed bullet: bad furigana: " ++ e.message

/-- A cause on the line at fault. -/
structure Fault where
  /-- What is wrong. -/
  cause : Cause
  /-- The line at fault. -/
  line : Line
  deriving DecidableEq

/-- A fault in a file. -/
structure Failure extends Fault where
  /-- The number of the file. -/
  file : Nat
  deriving DecidableEq

/-- The wording of a failure, with the text of the line at fault. -/
def Failure.message (failure : Failure) : Text :=
  failure.cause.message ++ " (in `" ++ failure.line.text ++ "`)"

/-! ## Diagnostics -/

/-- A span of bytes in a file. -/
structure Label where
  /-- The number of the file. -/
  file : Nat
  /-- The byte at which the span starts. -/
  start : Nat
  /-- The byte behind the span. -/
  stop : Nat
  deriving DecidableEq

/-- An error, and the places that it is about. -/
structure Diagnostic where
  /-- What is wrong. -/
  message : Text
  /-- Where it is. -/
  labels : List Label
  deriving DecidableEq

/-- The diagnostic of a failure has the wording of its cause and points at the line at fault. -/
def Failure.diagnostic (failure : Failure) : Diagnostic where
  message := failure.cause.message
  labels := [⟨failure.file, failure.line.start, failure.line.stop⟩]

end StudyGraph
