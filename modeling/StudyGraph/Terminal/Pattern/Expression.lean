import StudyGraph.Terminal.Pattern.CharSet
import StudyGraph.Terminal.Pattern.Defect

/-!
# Expressions

How a pattern is written. An `Expression` is what stands in a written pattern, with the stretches in
which its parts stand, and a `ClassSet` what stands between the brackets of a class. Flags may be
set and cleared on the way, so the meaning of a part depends on the flags before it.
-/

namespace StudyGraph.Pattern

/-! ## Parts -/

/-- A character that stands for itself. -/
structure Literal where
  /-- The character. -/
  char : Char
  /-- It is written as a byte of two hexadecimal digits. -/
  isByte : Bool
  stretch : Stretch
  deriving DecidableEq

/-- A class that is written as one letter behind a backslash. -/
inductive Shorthand where
  | digit
  | space
  | word
  deriving DecidableEq

/-- The name of a class. -/
inductive ClassName where
  /-- A property, a category or a script. -/
  | plain (name : Text)
  /-- A property by its value. -/
  | valued (property value : Text)
  deriving DecidableEq

/-- What a flag changes. -/
inductive Flag where
  | caseless
  | manyLines
  | dotNewline
  | swapGreed
  | unicode
  | returns
  | verbose
  deriving DecidableEq

/-- The flag that a letter stands for. -/
def Flag.ofLetter? : Char → Option Flag
  | 'i' => some caseless
  | 'm' => some manyLines
  | 's' => some dotNewline
  | 'U' => some swapGreed
  | 'u' => some unicode
  | 'R' => some returns
  | 'x' => some verbose
  | _ => none

/-- Flags that are set or cleared. -/
abbrev Setting := List (Flag × Bool)

/-- What becomes of a flag. -/
def Setting.get? (setting : Setting) (flag : Flag) : Option Bool :=
  (setting.find? fun e => e.1 = flag).map Prod.snd

/-- An assertion, as it is written. -/
inductive Anchor where
  | caret
  | dollar
  | textStart
  | textEnd
  | boundary
  | noBoundary
  | wordStart
  | wordEnd
  | noWordBefore
  | noWordBehind
  deriving DecidableEq

/-! ## Classes -/

/-- An operation on two sets. -/
inductive SetOperation where
  | inter
  | diff
  | symmDiff
  deriving DecidableEq

/-- What stands between the brackets of a class. -/
inductive ClassSet where
  | empty (stretch : Stretch)
  | literal (l : Literal)
  | range (first last : Literal)
  /-- A set of ASCII characters by its name. -/
  | named (stretch : Stretch) (negated : Bool) (set : CharSet)
  | shorthand (stretch : Stretch) (negated : Bool) (kind : Shorthand)
  | unicode (stretch : Stretch) (negated : Bool) (name : ClassName)
  | bracketed (stretch : Stretch) (negated : Bool) (set : ClassSet)
  | union (stretch : Stretch) (sets : List ClassSet)
  | operation (kind : SetOperation) (left right : ClassSet)

/-- Where a set stands. -/
def ClassSet.stretch : ClassSet → Stretch
  | empty s | named s _ _ | shorthand s _ _ | unicode s _ _ | bracketed s _ _ | union s _ => s
  | literal l => l.stretch
  | range first last => ⟨first.stretch.first, last.stretch.last⟩
  | operation _ left right => ⟨left.stretch.first, right.stretch.last⟩

/-! ## Expressions -/

/-- What stands in a written pattern. -/
inductive Expression where
  | empty (stretch : Stretch)
  | flags (stretch : Stretch) (setting : Setting)
  | literal (l : Literal)
  | dot (stretch : Stretch)
  | anchor (stretch : Stretch) (kind : Anchor)
  | shorthand (stretch : Stretch) (negated : Bool) (kind : Shorthand)
  | unicode (stretch : Stretch) (negated : Bool) (name : ClassName)
  | bracketed (stretch : Stretch) (negated : Bool) (set : ClassSet)
  | repeated (stretch : Stretch) (least : Nat) (most : Option Nat) (e : Expression)
  | group (stretch : Stretch) (setting : Setting) (e : Expression)
  | alternatives (stretch : Stretch) (es : List Expression)
  | sequence (stretch : Stretch) (es : List Expression)

/-- Where an expression stands. -/
def Expression.stretch : Expression → Stretch
  | empty s | flags s _ | dot s | anchor s _ | shorthand s _ _ | unicode s _ _
  | bracketed s _ _ | repeated s _ _ _ | group s _ _ | alternatives s _ | sequence s _ => s
  | literal l => l.stretch

/-! ## Nesting -/

mutual

/-- The first part that nests too deep inside a set at some depth. -/
def ClassSet.tooDeep? (depth : Nat) : ClassSet → Option Stretch
  | .bracketed s _ set =>
    if nestLimit ≤ depth then some s else set.tooDeep? (depth + 1)
  | .union s sets => if nestLimit ≤ depth then some s else ClassSet.anyTooDeep? (depth + 1) sets
  | .operation kind left right =>
    if nestLimit ≤ depth then some (ClassSet.operation kind left right).stretch
    else (left.tooDeep? (depth + 1)).or (right.tooDeep? (depth + 1))
  | _ => none

/-- The first part that nests too deep in one of the sets. -/
def ClassSet.anyTooDeep? (depth : Nat) : List ClassSet → Option Stretch
  | [] => none
  | set :: sets => (set.tooDeep? depth).or (ClassSet.anyTooDeep? depth sets)

end

mutual

/-- The first part that nests too deep inside an expression at some depth. -/
def Expression.tooDeep? (depth : Nat) : Expression → Option Stretch
  | .bracketed s _ set => if nestLimit ≤ depth then some s else set.tooDeep? (depth + 1)
  | .repeated s _ _ e => if nestLimit ≤ depth then some s else e.tooDeep? (depth + 1)
  | .group s _ e => if nestLimit ≤ depth then some s else e.tooDeep? (depth + 1)
  | .alternatives s es | .sequence s es =>
    if nestLimit ≤ depth then some s else Expression.anyTooDeep? (depth + 1) es
  | _ => none

/-- The first part that nests too deep in one of the expressions. -/
def Expression.anyTooDeep? (depth : Nat) : List Expression → Option Stretch
  | [] => none
  | e :: es => (e.tooDeep? depth).or (Expression.anyTooDeep? depth es)

end

end StudyGraph.Pattern
