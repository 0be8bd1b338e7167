import StudyGraph.Terminal.Pattern.Folding
import StudyGraph.Terminal.Pattern.Property

/-!
# Sets of characters

What a pattern asks of one character. A `CharSet` is built from ranges and classes of characters by
the operations on sets; `CharSet.has` says which characters belong to it, and each operation is the
one on the characters (`has_union`, `has_inter`, `has_complement`, `has_diff`).
-/

namespace StudyGraph

/-- A set of characters. -/
inductive CharSet where
  | empty
  /-- The characters between two, both included. -/
  | range (first last : Char)
  /-- The characters of a class. -/
  | property (p : Text.Property)
  /-- The characters that differ in case alone from one of the set. -/
  | folded (s : CharSet)
  | complement (s : CharSet)
  | union (s t : CharSet)
  | inter (s t : CharSet)
  deriving DecidableEq

namespace CharSet

/-- Whether a character belongs to a set. -/
def has : CharSet → Char → Bool
  | empty, _ => false
  | range first last, c => first.toNat ≤ c.toNat && c.toNat ≤ last.toNat
  | property p, c => p.holds c
  | folded s, c => (Text.variants c).any s.has
  | complement s, c => !s.has c
  | union s t, c => s.has c || t.has c
  | inter s t, c => s.has c && t.has c

@[simp] theorem has_complement (s : CharSet) (c : Char) :
    (complement s).has c = !s.has c := rfl

@[simp] theorem has_union (s t : CharSet) (c : Char) :
    (union s t).has c = (s.has c || t.has c) := rfl

@[simp] theorem has_inter (s t : CharSet) (c : Char) :
    (inter s t).has c = (s.has c && t.has c) := rfl

/-- A set is part of what it folds to. -/
theorem has_folded {s : CharSet} {c : Char} (h : s.has c = true) : (folded s).has c = true :=
  List.any_eq_true.2 ⟨c, Text.mem_variants_self c, h⟩

/-- The set of one character. -/
def char (c : Char) : CharSet :=
  range c c

/-- The characters of one set and not of the other. -/
def diff (s t : CharSet) : CharSet :=
  inter s (complement t)

@[simp] theorem has_diff (s t : CharSet) (c : Char) :
    (diff s t).has c = (s.has c && !t.has c) := rfl

/-- The characters of one set or the other, and not of both. -/
def symmDiff (s t : CharSet) : CharSet :=
  union (diff s t) (diff t s)

/-- The characters of any of the sets. -/
def unions (sets : List CharSet) : CharSet :=
  sets.foldl union empty

/-- The characters of a text. -/
def ofText (t : Text) : CharSet :=
  unions (t.map char)

/-- The ASCII characters. -/
def ascii : CharSet :=
  property .ascii

/-- The complement of a set, or the set itself. -/
def complementIf (negated : Bool) (s : CharSet) : CharSet :=
  if negated then complement s else s

/-- The set with all characters that differ in case alone, or the set itself. -/
def foldedIf (caseless : Bool) (s : CharSet) : CharSet :=
  if caseless then folded s else s

/-- Whether a set has a byte that is no ASCII character, if its characters are taken for bytes. -/
def hasHighByte (s : CharSet) : Bool :=
  (List.range 128).any fun n => s.has (Char.ofNat (128 + n))

/-! ## Sets with names -/

/-- The letters of ASCII. -/
def asciiLetters : CharSet :=
  union (range 'A' 'Z') (range 'a' 'z')

/-- The digits of ASCII. -/
def asciiDigits : CharSet :=
  range '0' '9'

/-- The characters of words in ASCII. -/
def asciiWord : CharSet :=
  union (union asciiLetters asciiDigits) (char '_')

/-- The white space of ASCII. -/
def asciiSpace : CharSet :=
  union (range '\t' '\r') (char ' ')

/-- The ASCII sets that have names. -/
def named : List (String × CharSet) :=
  [("alnum", union asciiLetters asciiDigits), ("alpha", asciiLetters), ("ascii", ascii),
    ("blank", ofText "\t "), ("cntrl", union (range '\x00' '\x1f') (char '\x7f')),
    ("digit", asciiDigits), ("graph", range '!' '~'), ("lower", range 'a' 'z'),
    ("print", range ' ' '~'), ("punct", diff (range '!' '~') (union asciiLetters asciiDigits)),
    ("space", asciiSpace), ("upper", range 'A' 'Z'), ("word", asciiWord),
    ("xdigit", union asciiDigits (union (range 'A' 'F') (range 'a' 'f')))]

end CharSet

end StudyGraph
