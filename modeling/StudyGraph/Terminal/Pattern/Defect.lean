import StudyGraph.Text.Scan

/-!
# Defects of written patterns

A written pattern may be at fault. A `Defect` says what is wrong (`Reason`) and where, and
`Defect.message` shows the pattern with marks below the places at fault. Lines are numbered if there
are several.
-/

namespace StudyGraph.Pattern

/-- A place in a written pattern. Lines and columns count from one. -/
structure Position where
  line : Nat
  column : Nat
  deriving DecidableEq

/-- The start. -/
def Position.start : Position := ⟨1, 1⟩

/-- The place behind a character that stands at a place. -/
def Position.behind (p : Position) (c : Char) : Position :=
  if c = '\n' then ⟨p.line + 1, 1⟩ else ⟨p.line, p.column + 1⟩

/-- A stretch of a written pattern, between two places. -/
structure Stretch where
  first : Position
  last : Position
  deriving DecidableEq

/-- No characters at a place. -/
def Stretch.point (p : Position) : Stretch := ⟨p, p⟩

/-- What may be wrong with a written pattern. -/
inductive Reason where
  | classEscape
  | classRange
  | classRangeBoundary
  | classUnclosed
  | decimalTooLarge
  | hexEmpty
  | hexValue
  | hexDigit
  | escapeUnfinished
  | escapeUnknown
  | flagNegationDangling
  | flagTwice
  | flagNegationTwice
  | flagUnfinished
  | flagUnknown
  | groupNameTwice
  | groupNameEmpty
  | groupNameCharacter
  | groupNameUnclosed
  | groupUnclosed
  | groupUnopened
  | nesting
  | countOrder
  | countEmpty
  | countUnclosed
  | nothingToRepeat
  | boundaryUnclosed
  | boundaryUnknown
  | boundaryUnfinished
  | unicodeClass
  | backreference
  | lookAround
  | unicodeForbidden
  | bytesNoText
  | propertyUnknown
  | propertyValueUnknown
  deriving DecidableEq

/-- The levels that groups, classes and repetitions may nest. -/
def nestLimit : Nat := 250

/-- The wording of a reason. -/
def Reason.message : Reason → Text
  | classEscape => "invalid escape sequence found in character class"
  | classRange => "invalid character class range, the start must be <= the end"
  | classRangeBoundary => "invalid range boundary, must be a literal"
  | classUnclosed => "unclosed character class"
  | decimalTooLarge => "decimal literal invalid"
  | hexEmpty => "hexadecimal literal empty"
  | hexValue => "hexadecimal literal is not a Unicode scalar value"
  | hexDigit => "invalid hexadecimal digit"
  | escapeUnfinished => "incomplete escape sequence, reached end of pattern prematurely"
  | escapeUnknown => "unrecognized escape sequence"
  | flagNegationDangling => "dangling flag negation operator"
  | flagTwice => "duplicate flag"
  | flagNegationTwice => "flag negation operator repeated"
  | flagUnfinished => "expected flag but got end of regex"
  | flagUnknown => "unrecognized flag"
  | groupNameTwice => "duplicate capture group name"
  | groupNameEmpty => "empty capture group name"
  | groupNameCharacter => "invalid capture group character"
  | groupNameUnclosed => "unclosed capture group name"
  | groupUnclosed => "unclosed group"
  | groupUnopened => "unopened group"
  | nesting =>
    "exceed the maximum number of nested parentheses/brackets (" ++ Text.ofNat nestLimit ++ ")"
  | countOrder => "invalid repetition count range, the start must be <= the end"
  | countEmpty => "repetition quantifier expects a valid decimal"
  | countUnclosed => "unclosed counted repetition"
  | nothingToRepeat => "repetition operator missing expression"
  | boundaryUnclosed =>
    "special word boundary assertion is either unclosed or contains an invalid character"
  | boundaryUnknown =>
    "unrecognized special word boundary assertion, valid choices are: start, end, start-half " ++
      "or end-half"
  | boundaryUnfinished =>
    "found either the beginning of a special word boundary or a bounded repetition on a \\b " ++
      "with an opening brace, but no closing brace"
  | unicodeClass => "invalid Unicode character class"
  | backreference => "backreferences are not supported"
  | lookAround => "look-around, including look-ahead and look-behind, is not supported"
  | unicodeForbidden => "Unicode not allowed here"
  | bytesNoText => "pattern can match invalid UTF-8"
  | propertyUnknown => "Unicode property not found"
  | propertyValueUnknown => "Unicode property value not found"

/-- What is wrong with a written pattern, and where. -/
structure Defect where
  /-- What is wrong. -/
  reason : Reason
  /-- The stretch at fault. -/
  stretch : Stretch
  /-- An earlier stretch that it disagrees with. -/
  earlier : Option Stretch := none
  deriving DecidableEq

namespace Defect

/-- The stretches of a defect, in order. -/
def stretches (defect : Defect) : List Stretch :=
  defect.earlier.toList ++ [defect.stretch]

/-- Marks below stretches of a line, from a column on. -/
def marks (column : Nat) : List Stretch → Text
  | [] => []
  | s :: rest =>
    let size := max 1 (s.last.column - s.first.column)
    List.replicate (s.first.column - column) ' ' ++ List.replicate size '^' ++
      marks (max column s.first.column + size) rest

/-- The lines of a written pattern, from a number on, each behind its number if that has a width,
and with marks below. -/
def notated (defect : Defect) (width number : Nat) : List Text → Text
  | [] => []
  | line :: lines =>
    let digits := Text.ofNat number
    let lead :=
      if width = 0 then "    ".toList
      else List.replicate (width - digits.length) ' ' ++ digits ++ ": "
    let marked := defect.stretches.filter fun s =>
      s.first.line = number && s.last.line = number
    let below := if marked.isEmpty then [] else
      List.replicate lead.length ' ' ++ marks 1 marked ++ ['\n']
    lead ++ line ++ '\n' :: below ++ notated defect width (number + 1) lines

/-- The note about a stretch over several lines. -/
def note (s : Stretch) : Text :=
  "on line " ++ Text.ofNat s.first.line ++ " (column " ++ Text.ofNat s.first.column ++
    ") through line " ++ Text.ofNat s.last.line ++ " (column " ++
    Text.ofNat (s.last.column - 1) ++ ")"

/-- The wording of a defect of a pattern. -/
def message (defect : Defect) (pattern : Text) : Text :=
  let lines := Text.lines pattern
  let count := if pattern.getLast? = some '\n' then lines.length + 1 else lines.length
  let width := if count ≤ 1 then 0 else (Text.ofNat count).length
  let shown := defect.notated width 1 lines
  let verdict := "error: " ++ defect.reason.message
  if List.contains pattern '\n' then
    let divider := List.replicate 79 '~' ++ ['\n']
    let wide := defect.stretches.filter fun s => s.first.line != s.last.line
    let notes := if wide.isEmpty then [] else Text.join "\n" (wide.map note) ++ ['\n']
    "regex parse error:\n" ++ divider ++ shown ++ divider ++ notes ++ verdict
  else "regex parse error:\n" ++ shown ++ verdict

end Defect

end StudyGraph.Pattern
