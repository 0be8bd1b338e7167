import StudyGraph.Text

/-!
# White space

The characters with the Unicode property White_Space, and trimming and word splitting by them.
`isBlank` holds of every character that the core library calls white space
(`isBlank_of_isWhitespace`), and a trimmed text neither starts nor ends with one.
-/

namespace StudyGraph

namespace Text

/-- The property White_Space. -/
def isBlank (c : Char) : Bool :=
  let n := c.toNat
  (0x09 ≤ n && n ≤ 0x0D) || n == 0x20 || n == 0x85 || n == 0xA0 || n == 0x1680 ||
    (0x2000 ≤ n && n ≤ 0x200A) || n == 0x2028 || n == 0x2029 || n == 0x202F || n == 0x205F ||
    n == 0x3000

theorem isBlank_of_isWhitespace {c : Char} (h : c.isWhitespace = true) : isBlank c = true := by
  simp only [Char.isWhitespace, Bool.or_eq_true, decide_eq_true_eq] at h
  rcases h with ((h | h) | h) | h <;> subst h <;> decide

/-- The text from its first character that is not blank. -/
def trimStart (t : Text) : Text :=
  t.dropWhile isBlank

/-- The text up to its last character that is not blank. -/
def trimEnd (t : Text) : Text :=
  (t.reverse.dropWhile isBlank).reverse

/-- The text without blanks at either end. -/
def trim (t : Text) : Text :=
  trimEnd (trimStart t)

/-- The maximal runs of characters that are not blank. -/
def words (t : Text) : List Text :=
  (splitWhere isBlank t).filter (!·.isEmpty)

/-- One or more blanks at the front, taken as far as they go: what follows them. -/
def dropBlanks? : Text → Option Text
  | [] => none
  | c :: t => if isBlank c then some (t.dropWhile isBlank) else none

end Text

end StudyGraph
