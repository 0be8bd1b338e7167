import StudyGraph.Text.Blank
import StudyGraph.Text.Search

/-!
# Headers and bullets

How the lines of a block are recognised by their leads. A header starts with `#` characters, white
space, a lone `@` and white space. A bullet starts with a hyphen, white space and `@`; what follows
the `@` tells its kind. Both readers return the content behind the lead.
-/

namespace StudyGraph

/-- What a bullet says about the sentence of its block. -/
inductive Bullet.Kind where
  /-- Translations of the sentence. -/
  | translation
  /-- The reading of the sentence. -/
  | furigana
  /-- A blank in the sentence. -/
  | fill
  /-- A word of the sentence, as a vocabulary item of its own. -/
  | vocabulary
  /-- Anything else behind `@`: part of the run of bullets, and otherwise ignored. -/
  | unknown
  deriving DecidableEq, Inhabited

namespace Bullet

/-- The content behind a hyphen, white space, the keyword and white space. -/
def contentAfter? (keyword : Text) : Text → Option Text
  | '-' :: t => do
    let t ← Text.dropBlanks? t
    let t ← Text.afterPrefix? keyword t
    Text.dropBlanks? t
  | _ => none

/-- The content behind optional white space, a hyphen, white space and `@`. -/
def contentOfUnknown? (line : Text) : Option Text :=
  match Text.trimStart line with
  | '-' :: t => do
    let t ← Text.dropBlanks? t
    Text.afterPrefix? "@" t
  | _ => none

/-- The keywords of the kinds that have one. -/
def keywords : List (Kind × Text) :=
  [(.translation, "@translation"), (.furigana, "@furigana"), (.fill, "@fill"), (.vocabulary, "@")]

/-- The kind and the content of a bullet line. -/
def classify (line : Text) : Option (Kind × Text) :=
  match keywords.findSome? fun (kind, word) => (contentAfter? word line).map (kind, ·) with
  | some found => some found
  | none => (contentOfUnknown? line).map (.unknown, ·)

end Bullet

/-- The content of a header line, behind its lead. -/
def headerContent? : Text → Option Text
  | '#' :: t => do
    let t ← Text.dropBlanks? (t.dropWhile (· == '#'))
    let t ← Text.afterPrefix? "@" t
    Text.dropBlanks? t
  | _ => none

/-- The bytes of a line in front of its content. -/
def leadSize (line content : Text) : Nat :=
  line.byteSize - content.byteSize

end StudyGraph
