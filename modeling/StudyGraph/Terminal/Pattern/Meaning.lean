import StudyGraph.Terminal.Pattern
import StudyGraph.Terminal.Pattern.Reader

/-!
# The meaning of expressions

The `Pattern` that an expression stands for. Flags say how the parts behind them are meant: with
differences of case, lines, or Unicode left aside. Without Unicode a pattern speaks of bytes, and as
texts are no arbitrary bytes, no part of it may stand for a byte that is no ASCII character.
`Pattern.ofText` reads a written pattern.
-/

namespace StudyGraph.Pattern

/-- How expressions are meant. -/
structure Mode where
  /-- Letters stand for all letters that differ from them in case alone. -/
  caseless : Bool := false
  /-- The signs for start and end stand for those of every line. -/
  manyLines : Bool := false
  /-- The dot stands for ends of lines too. -/
  dotNewline : Bool := false
  /-- Characters are those of Unicode. -/
  unicode : Bool := true
  /-- Carriage returns end lines too. -/
  returns : Bool := false
  deriving DecidableEq

namespace Mode

/-- Change a mode. -/
def change (mode : Mode) (setting : Setting) : Mode where
  caseless := (setting.get? .caseless).getD mode.caseless
  manyLines := (setting.get? .manyLines).getD mode.manyLines
  dotNewline := (setting.get? .dotNewline).getD mode.dotNewline
  unicode := (setting.get? .unicode).getD mode.unicode
  returns := (setting.get? .returns).getD mode.returns

/-- The characters of words. -/
def words (mode : Mode) : Alphabet :=
  if mode.unicode then .unicode else .ascii

/-- The characters that a set of them stands for. -/
def fold (mode : Mode) (s : CharSet) : CharSet :=
  if !mode.caseless then s
  else if mode.unicode then .folded s
  else .inter (.folded s) .ascii

/-- The set of the characters that a set stands for, or of all others. Bytes must be ASCII. -/
def finish (mode : Mode) (stretch : Stretch) (negated : Bool) (s : CharSet) :
    Except Defect CharSet :=
  let s := CharSet.complementIf negated (mode.fold s)
  if !mode.unicode && s.hasHighByte then stop .bytesNoText stretch else .ok s

end Mode

/-! ## Sets -/

/-- A name in small letters, without separators and without what may stand before any name. One
name would otherwise be lost. -/
def plainName (name : Text) : Text :=
  let lead := (name.take 2).map Char.toLower = ['i', 's']
  let rest := if lead then name.drop 2 else name
  let plain := (rest.filter fun c =>
    c.toNat < 0x80 && c != ' ' && c != '_' && c != '-').map Char.toLower
  if lead && plain = ['c'] then ['i', 's', 'c'] else plain

/-- The class with a plain name. Some codes of categories are also names of other things. -/
def propertyNamed? (name : Text) : Option Text.Property :=
  if name = "cf".toList || name = "sc".toList || name = "lc".toList then
    Text.Property.categoryNamed? name
  else Text.Property.named? name

/-- The set of the characters in a class. -/
def ClassName.set (stretch : Stretch) : ClassName → Except Defect CharSet
  | .plain name =>
    match propertyNamed? (plainName name) with
    | some property => .ok (.property property)
    | none => stop .propertyUnknown stretch
  | .valued property value =>
    let property := plainName property
    let found :=
      if property = "gc".toList || property = "generalcategory".toList then
        some (Text.Property.categoryNamed? (plainName value))
      else if property = "sc".toList || property = "script".toList then
        some ((Text.Script.named? (plainName value)).map .script)
      else if property = "scx".toList || property = "scriptextensions".toList then
        some ((Text.Script.named? (plainName value)).map .usedInScript)
      else none
    match found with
    | some (some property) => .ok (.property property)
    | some none => stop .propertyValueUnknown stretch
    | none => stop .propertyUnknown stretch

/-- The set of a class with a name, or of all other characters. -/
def unicodeSet (mode : Mode) (stretch : Stretch) (negated : Bool) (name : ClassName) :
    Except Defect CharSet := do
  if !mode.unicode then stop .unicodeForbidden stretch
  return .complementIf negated (mode.fold (← name.set stretch))

/-- The set that a letter stands for. -/
def Shorthand.set (unicode : Bool) : Shorthand → CharSet
  | digit => if unicode then .property (.category "Nd") else CharSet.asciiDigits
  | space => if unicode then .property .whiteSpace else CharSet.asciiSpace
  | word => if unicode then .property .word else CharSet.asciiWord

/-- The set that a letter stands for, or all other characters. -/
def shorthandSet (mode : Mode) (stretch : Stretch) (negated : Bool) (kind : Shorthand) :
    Except Defect CharSet :=
  { mode with caseless := false }.finish stretch negated (kind.set mode.unicode)

/-- The character of a literal. A byte must be ASCII. -/
def Literal.char? (mode : Mode) (l : Literal) : Except Defect Char :=
  if !mode.unicode && l.isByte && 0x80 ≤ l.char.toNat then stop .bytesNoText l.stretch
  else .ok l.char

/-- The character of a literal in a class. Among bytes it must be ASCII. -/
def Literal.inClass (mode : Mode) (l : Literal) : Except Defect Char := do
  let c ← l.char? mode
  if !mode.unicode && 0x80 ≤ c.toNat then stop .unicodeForbidden l.stretch
  return c

/-- The result of an operation. -/
def SetOperation.apply : SetOperation → CharSet → CharSet → CharSet
  | inter => .inter
  | diff => .diff
  | symmDiff => .symmDiff

mutual

/-- The set that stands between the brackets of a class. -/
def ClassSet.set (mode : Mode) : ClassSet → Except Defect CharSet
  | .empty _ => .ok .empty
  | .literal l => return .char (← l.inClass mode)
  | .range first last => return .range (← first.inClass mode) (← last.inClass mode)
  | .named stretch negated set => mode.finish stretch negated set
  | .shorthand stretch negated kind => shorthandSet mode stretch negated kind
  | .unicode stretch negated name => unicodeSet mode stretch negated name
  | .bracketed stretch negated set => do mode.finish stretch negated (← set.set mode)
  | .union _ sets => ClassSet.unionOf mode sets
  | .operation kind left right => do
    let left ← left.set mode
    let right ← right.set mode
    return kind.apply (mode.fold left) (mode.fold right)

/-- The union of sets. -/
def ClassSet.unionOf (mode : Mode) : List ClassSet → Except Defect CharSet
  | [] => .ok .empty
  | set :: sets => return .union (← set.set mode) (← ClassSet.unionOf mode sets)

end

/-! ## Patterns -/

/-- The set that a dot stands for. -/
def dotSet (mode : Mode) : CharSet :=
  if mode.dotNewline then .property .any
  else if mode.returns then .complement (.ofText "\r\n")
  else .complement (.char '\n')

/-- What an assertion says. -/
def Anchor.assertion (mode : Mode) : Anchor → Assertion
  | caret => if mode.manyLines then .lineStart mode.returns else .textStart
  | dollar => if mode.manyLines then .lineEnd mode.returns else .textEnd
  | textStart => .textStart
  | textEnd => .textEnd
  | boundary => .boundary mode.words
  | noBoundary => .noBoundary mode.words
  | wordStart => .wordStart mode.words
  | wordEnd => .wordEnd mode.words
  | noWordBefore => .noWordBefore mode.words
  | noWordBehind => .noWordBehind mode.words

mutual

/-- The pattern that an expression stands for, and the mode of what follows it. -/
def Expression.pattern (mode : Mode) : Expression → Except Defect (Pattern × Mode)
  | .empty _ => .ok (.empty, mode)
  | .flags _ setting => .ok (.empty, mode.change setting)
  | .literal l => do
    let s ← l.char? mode
    return (.char (if !mode.unicode && 0x80 ≤ s.toNat then .char s else mode.fold (.char s)), mode)
  | .dot stretch =>
    if mode.unicode then .ok (.char (dotSet mode), mode) else stop .bytesNoText stretch
  | .anchor _ kind => .ok (.assertion (kind.assertion mode), mode)
  | .shorthand stretch negated kind => do
    return (.char (← shorthandSet mode stretch negated kind), mode)
  | .unicode stretch negated name => do
    return (.char (← unicodeSet mode stretch negated name), mode)
  | .bracketed stretch negated set => do
    return (.char (← mode.finish stretch negated (← set.set mode)), mode)
  | .repeated _ least most e => do
    let (p, mode) ← e.pattern mode
    return (.repeated p least most, mode)
  | .group _ setting e => do
    let (p, _) ← e.pattern (mode.change setting)
    return (p, mode)
  | .alternatives _ es => Expression.eitherOf mode es
  | .sequence _ es => Expression.sequenceOf mode es

/-- One expression behind the other. -/
def Expression.sequenceOf (mode : Mode) : List Expression → Except Defect (Pattern × Mode)
  | [] => .ok (.empty, mode)
  | e :: es => do
    let (p, mode) ← e.pattern mode
    let (q, mode) ← Expression.sequenceOf mode es
    return (.sequence p q, mode)

/-- One expression or another. Flags also hold in the branches that follow. -/
def Expression.eitherOf (mode : Mode) : List Expression → Except Defect (Pattern × Mode)
  | [] => .ok (.empty, mode)
  | [e] => e.pattern mode
  | e :: es => do
    let (p, mode) ← e.pattern mode
    let (q, mode) ← Expression.eitherOf mode es
    return (.either p q, mode)

end

/-! ## Reading patterns -/

/-- Why a text is no pattern. -/
inductive Error where
  /-- It is not written as it should be. -/
  | defect (d : Defect)
  /-- The pattern is too large. -/
  | tooLarge
  deriving DecidableEq

/-- The wording of an error. -/
def Error.message (pattern : Text) : Error → Text
  | defect d => d.message pattern
  | tooLarge => "Compiled regex exceeds size limit of 10485760 bytes."

/-- Read a pattern. -/
def ofText (t : Text) : Except Error Pattern :=
  match (Expression.read t).bind (Expression.pattern {}) with
  | .error d => .error (.defect d)
  | .ok (p, _) => if sizeLimit < p.size then .error .tooLarge else .ok p

end StudyGraph.Pattern
