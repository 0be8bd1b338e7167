import StudyGraph.Terminal.Pattern.CharSet

/-!
# Patterns

What parts of a text look like. A `Pattern` is made of sets of characters and of assertions about a
place, one after the other, as alternatives, and repeated. `Pattern.ends` goes from places where a
part may start to those where it may end, and `Pattern.occursIn` asks for a part anywhere in a text.

Places are kept in order and without repetition, so `Place.merge` and `Place.without` are the union
and the difference of two sets of places. A text has one place more than characters, and a
repetition comes to nothing new after as many rounds, so `spread` needs no more.
-/

namespace StudyGraph

/-! ## Places -/

/-- A place in a text, between two characters or at an end. -/
structure Place where
  /-- The number of characters before the place. -/
  index : Nat
  /-- The characters before the place, last one first. -/
  before : Text
  /-- The characters behind the place. -/
  after : Text
  deriving DecidableEq

namespace Place

/-- The places from one on to the end of the text. -/
def onwardFrom (index : Nat) (before : Text) : Text → List Place
  | [] => [⟨index, before, []⟩]
  | c :: t => ⟨index, before, c :: t⟩ :: onwardFrom (index + 1) (c :: before) t

/-- All places of a text. -/
def all (t : Text) : List Place :=
  onwardFrom 0 [] t

theorem length_onwardFrom (index : Nat) (before t : Text) :
    (onwardFrom index before t).length = t.length + 1 := by
  induction t generalizing index before with
  | nil => rfl
  | cons c t ih => simp [onwardFrom, ih]

theorem length_all (t : Text) : (all t).length = t.length + 1 :=
  length_onwardFrom 0 [] t

/-- The place behind a character of the set, if one follows. -/
def behind? (s : CharSet) (p : Place) : Option Place :=
  match p.after with
  | c :: t => if s.has c then some ⟨p.index + 1, c :: p.before, t⟩ else none
  | [] => none

/-- The places of either list, in order. -/
def merge : List Place → List Place → List Place
  | [], qs => qs
  | ps, [] => ps
  | p :: ps, q :: qs =>
    if p.index < q.index then p :: merge ps (q :: qs)
    else if q.index < p.index then q :: merge (p :: ps) qs
    else p :: merge ps qs
  termination_by ps qs => ps.length + qs.length

/-- The places of the first list that are not in the second. -/
def without : List Place → List Place → List Place
  | [], _ => []
  | ps, [] => ps
  | p :: ps, q :: qs =>
    if p.index < q.index then p :: without ps (q :: qs)
    else if q.index < p.index then without (p :: ps) qs
    else without ps qs
  termination_by ps qs => ps.length + qs.length

/-- Take a step again and again, until it comes to nothing or changes nothing. -/
def iterate (step : List Place → List Place) : (rounds : Nat) → List Place → List Place
  | 0, ps => ps
  | rounds + 1, ps =>
    let next := step ps
    if next.isEmpty || next.map index = ps.map index then next else iterate step rounds next

/-- The places that are found already, and those that some number of further rounds of a step lead
to from the newest of them. -/
def spread (step : List Place → List Place) : (rounds : Nat) → (found newest : List Place) →
    List Place
  | 0, found, _ => found
  | rounds + 1, found, newest =>
    match without (step newest) found with
    | [] => found
    | next => spread step rounds (merge found next) next

end Place

/-! ## Assertions -/

/-- Which characters count as parts of words. -/
inductive Alphabet where
  | ascii
  | unicode
  deriving DecidableEq

/-- Whether a character is part of a word. -/
def Alphabet.isWord : Alphabet → Char → Bool
  | ascii, c => CharSet.asciiWord.has c
  | unicode, c => Text.isWord c

/-- What may be said about a place. -/
inductive Assertion where
  | textStart
  | textEnd
  /-- The start of a line. Lines end at newlines, or also at carriage returns. -/
  | lineStart (returns : Bool)
  /-- The end of a line. -/
  | lineEnd (returns : Bool)
  /-- The start or the end of a word. -/
  | boundary (words : Alphabet)
  /-- No start or end of a word. -/
  | noBoundary (words : Alphabet)
  | wordStart (words : Alphabet)
  | wordEnd (words : Alphabet)
  /-- No word before the place. -/
  | noWordBefore (words : Alphabet)
  /-- No word behind the place. -/
  | noWordBehind (words : Alphabet)
  deriving DecidableEq

/-- Whether an assertion is true at a place. -/
def Assertion.holds (assertion : Assertion) (p : Place) : Bool :=
  let before := p.before.head?
  let after := p.after.head?
  let ends (words : Alphabet) := before.any words.isWord
  let starts (words : Alphabet) := after.any words.isWord
  match assertion with
  | textStart => before.isNone
  | textEnd => after.isNone
  | lineStart false => before.all (· = '\n')
  | lineStart true => before.all fun c => c = '\n' || (c = '\r' && after != some '\n')
  | lineEnd false => after.all (· = '\n')
  | lineEnd true => after.all fun c => c = '\r' || (c = '\n' && before != some '\r')
  | boundary words => ends words != starts words
  | noBoundary words => ends words = starts words
  | wordStart words => !ends words && starts words
  | wordEnd words => ends words && !starts words
  | noWordBefore words => !ends words
  | noWordBehind words => !starts words

/-! ## Patterns -/

/-- A pattern for parts of a text. -/
inductive Pattern where
  /-- Nothing. -/
  | empty
  /-- One character. -/
  | char (s : CharSet)
  /-- Nothing, at a place of which an assertion is true. -/
  | assertion (a : Assertion)
  /-- One part behind another. -/
  | sequence (p q : Pattern)
  /-- One part or another. -/
  | either (p q : Pattern)
  /-- A part so many times, or more if there is no greatest number. -/
  | repeated (p : Pattern) (least : Nat) (most : Option Nat)
  deriving DecidableEq

namespace Pattern

/-- Where parts may end that start at one of the places, in a text with at most `size` places. -/
def ends (size : Nat) : Pattern → List Place → List Place
  | empty, ps => ps
  | char s, ps => ps.filterMap (Place.behind? s)
  | assertion a, ps => ps.filter a.holds
  | sequence p q, ps => q.ends size (p.ends size ps)
  | either p q, ps => Place.merge (p.ends size ps) (q.ends size ps)
  | repeated p least most, ps =>
    let started := Place.iterate (p.ends size) least ps
    let rounds := (most.map (· - least)).getD size
    Place.spread (p.ends size) rounds started started

/-- Whether a part of the text is as the pattern says. -/
def occursIn (p : Pattern) (t : Text) : Bool :=
  !(p.ends (t.length + 1) (Place.all t)).isEmpty

/-! ## Size -/

/-- Whether the pattern stands for nothing but places. -/
def isWidthless : Pattern → Bool
  | empty => true
  | char _ => false
  | assertion _ => true
  | sequence p q | either p q => p.isWidthless && q.isWidthless
  | repeated p _ most => p.isWidthless || most = some 0

/-- About how many states a machine has that looks for characters of a set. -/
def setSize : CharSet → Nat
  | .empty => 1
  | .range first last => if last.toNat < 0x80 then 1 else if first = last then last.utf8Size else 8
  | .property .ascii => 1
  | .property _ => 200
  | .folded s | .complement s => setSize s
  | .union s t | .inter s t => max (setSize s) (setSize t)

/-- About how many states a machine has that looks for the pattern. -/
def size : Pattern → Nat
  | empty => 0
  | char s => setSize s
  | assertion _ => 1
  | sequence p q => p.size + q.size
  | either p q => p.size + q.size + 1
  | repeated p least most =>
    if p.isWidthless then p.size
    else
      match most with
      | none => (max least 1) * p.size + 1
      | some most => least * p.size + (most - least) * (p.size + 1)

/-- The size from which on a pattern is too large. -/
def sizeLimit : Nat := 327680

end Pattern

end StudyGraph
