import StudyGraph.Text

/-!
# Searching

Literal search in a text. `occurrences needle t` lists the positions at which `needle` occurs,
counting from the left and never letting two occurrences overlap: after an occurrence the search
goes on behind it. `contains` asks for any occurrence at all (`contains_iff_isInfix`).
-/

namespace StudyGraph

namespace Text

/-- What follows `lead` in a text that starts with it. -/
def afterPrefix? (lead t : Text) : Option Text :=
  lead.isPrefixOf? t

/-- The positions of the occurrences of `needle`, for a text that starts at position `i` and whose
first `skip` characters belong to an earlier occurrence. -/
def occurrencesFrom (needle : Text) (i : Nat) : (skip : Nat) → Text → List Nat
  | _, [] => []
  | skip + 1, _ :: t => occurrencesFrom needle (i + 1) skip t
  | 0, c :: t =>
    if needle.isPrefixOf (c :: t) then i :: occurrencesFrom needle (i + 1) (needle.length - 1) t
    else occurrencesFrom needle (i + 1) 0 t

/-- The positions of the non-overlapping occurrences of a `needle` that is not empty. -/
def occurrences (needle t : Text) : List Nat :=
  occurrencesFrom needle 0 0 t

/-- Whether `needle` stands somewhere in the text. -/
def contains (needle : Text) : Text → Bool
  | [] => needle.isEmpty
  | c :: t => needle.isPrefixOf (c :: t) || contains needle t

theorem contains_iff_isInfix {needle t : Text} : contains needle t = true ↔ needle <:+: t := by
  induction t with
  | nil => simp [contains]
  | cons c t ih => simp [contains, ih, List.infix_cons_iff]

/-- The text before the first occurrence of `needle`, and the text behind it. -/
def cutAt? (needle : Text) : Text → Option (Text × Text)
  | [] => if needle.isEmpty then some ([], []) else none
  | c :: t =>
    match afterPrefix? needle (c :: t) with
    | some rest => some ([], rest)
    | none => (cutAt? needle t).map fun (before, rest) => (c :: before, rest)

end Text

end StudyGraph
